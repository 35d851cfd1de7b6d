import LineCalculator.Proofs.Expr.Outcome
import LineCalculator.Proofs.Fault.Message
import Mathlib.Tactic

/-!
# Reading more tokens

A fault is final if reading has not looked at the end of the tokens before it
is found.  A number that is missing at the end can still come, and then the
tokens are an expression unless they hold too many operators already.

The limit is found at the end in one case: the operator that exceeds it is an
additive one, and the product behind it ends with the tokens.  More tokens may
extend that product, so that the operator is not applied yet, and break it off
before the limit is exceeded in another way.
-/

namespace LineCalculator

/-- A chain with one operator too many, applied at the end of the tokens. -/
structure ExceedsAtEnd (tokens : List Token) : Prop where
  alternates : Alternates tokens
  length : tokens.length = 2 * 1025 + 1
  additive : ∃ sign ∈ tokens, sign.kind.isAdditive = true

/-- A multiplication in front that has no number behind it. -/
def BreaksOff : List Token → Prop
  | [] => False
  | sign :: behind =>
      sign.kind = .times ∧ ∀ token ∈ behind.head?, token.kind ≠ .number

namespace Expr

/-! ## Faults of the alternation -/

theorem faultFrom_append {numberDue : Bool} {tokens : List Token}
    {fault : GrammarFault} (hfault : faultFrom numberDue tokens = some fault)
    (hfinal : fault ≠ .numberExpected none) (behind : List Token) :
    faultFrom numberDue (tokens ++ behind) = some fault := by
  induction tokens generalizing numberDue with
  | nil =>
      cases numberDue with
      | true =>
          simp only [faultFrom, if_true, Option.some.injEq] at hfault
          exact absurd hfault.symm hfinal
      | false => simp [faultFrom] at hfault
  | cons token rest ih =>
      rw [List.cons_append]
      unfold faultFrom at hfault ⊢
      split_ifs at hfault ⊢
      · exact ih hfault
      · exact hfault
      · exact hfault
      · exact ih hfault

theorem faultFrom_append_of_none {numberDue : Bool} {tokens : List Token}
    (hclean : faultFrom numberDue tokens = none) (behind : List Token) :
    faultFrom numberDue (tokens ++ behind) = faultFrom false behind := by
  induction tokens generalizing numberDue with
  | nil =>
      cases numberDue with
      | true => simp [faultFrom] at hclean
      | false => rfl
  | cons token rest ih =>
      rw [List.cons_append]
      unfold faultFrom at hclean
      rw [faultFrom]
      split_ifs at hclean ⊢
      · exact ih hclean
      · exact ih hclean

theorem faultFrom_cons_cons {sign token : Token} {rest : List Token}
    (hsign : sign.kind ≠ .number) (hkind : token.kind = .number) :
    faultFrom false (sign :: token :: rest) = faultFrom false rest := by
  simp [faultFrom, hsign, hkind]

theorem faultFrom_eq_none_iff {tokens : List Token} :
    faultFrom true tokens = none ↔
      Alternates tokens ∧ tokens.length % 2 = 1 := by
  have hlength : frontLength tokens ≤ tokens.length := Nat.findGreatest_le _
  rw [← frontLength_eq_length_iff, faultFrom_eq, ← frontLength_eq]
  by_cases heven : frontLength tokens % 2 = 0
  · simp [heven]
    omega
  · simp [heven]
    omega

theorem faultFrom_of_breaksOff {behind : List Token}
    (hbreaks : BreaksOff behind) :
    faultFrom false behind =
      some (.numberExpected (behind[1]?.map Token.lexeme)) := by
  cases behind with
  | nil => exact hbreaks.elim
  | cons sign rest =>
      rcases hbreaks with ⟨hsign, hrest⟩
      cases rest with
      | nil => simp [faultFrom, hsign]
      | cons token rest =>
          have hkind : token.kind ≠ .number := by simpa using hrest
          simp [faultFrom, hsign, hkind]

/-! ## Operators applied -/

theorem appliedFrom_of_breaksOff {tokens : List Token} (pending : Bool)
    (hbreaks : BreaksOff tokens) : appliedFrom pending tokens = 0 := by
  cases tokens with
  | nil => exact hbreaks.elim
  | cons sign rest =>
      rcases hbreaks with ⟨hsign, hrest⟩
      cases rest with
      | nil => simp [appliedFrom, hsign]
      | cons token rest =>
          have hkind : token.kind ≠ .number := by simpa using hrest
          simp [appliedFrom, hsign, hkind]

/-- A pending operator is applied unless the product behind it breaks off. -/
theorem toNat_le_appliedFrom {tokens : List Token} (pending : Bool)
    (hbreaks : ¬BreaksOff tokens) :
    pending.toNat ≤ appliedFrom pending tokens := by
  fun_cases appliedFrom pending tokens with
  | case1 => exact Nat.le_refl _
  | case2 sign hsign => simp [BreaksOff, hsign] at hbreaks
  | case3 => exact Nat.le_refl _
  | case4 =>
      have hone := pending.toNat_le
      omega
  | case5 => exact Nat.le_add_left _ _
  | case6 => exact Nat.le_refl _
  | case7 sign token rest hkind hsign => simp [BreaksOff, hsign, hkind] at hbreaks
  | case8 => exact Nat.le_refl _

theorem not_breaksOff_cons {sign : Token} (hsign : sign.kind ≠ .times)
    (behind : List Token) : ¬BreaksOff (sign :: behind) :=
  fun hbreaks => hsign hbreaks.1

theorem appliedFrom_le_append {tokens behind : List Token} (pending : Bool)
    (hmore : ¬BreaksOff behind ∨ faultFrom false tokens ≠ none) :
    appliedFrom pending tokens ≤ appliedFrom pending (tokens ++ behind) := by
  fun_induction appliedFrom pending tokens with
  | case1 pending =>
      have hbreaks : ¬BreaksOff behind := by simpa [faultFrom] using hmore
      exact toNat_le_appliedFrom pending hbreaks
  | case2 => exact Nat.zero_le _
  | case3 pending sign hsign =>
      exact toNat_le_appliedFrom pending (not_breaksOff_cons hsign _)
  | case4 pending sign token rest hkind hsign ih =>
      rw [faultFrom_cons_cons (by simp [hsign]) hkind] at hmore
      simpa [appliedFrom, hkind, hsign] using ih hmore
  | case5 pending sign token rest hkind hsign hadditive ih =>
      rw [faultFrom_cons_cons (Kind.ne_number_of_isAdditive hadditive) hkind]
        at hmore
      simpa [appliedFrom, hkind, hsign, hadditive] using ih hmore
  | case6 pending sign token rest hkind hsign hadditive =>
      exact toNat_le_appliedFrom pending (not_breaksOff_cons hsign _)
  | case7 => exact Nat.zero_le _
  | case8 pending sign token rest hkind hsign =>
      exact toNat_le_appliedFrom pending (not_breaksOff_cons hsign _)

/-- Behind a complete chain, a product that breaks off keeps the last additive
operator from being applied. -/
theorem appliedFrom_append_of_breaksOff {tokens behind : List Token}
    (pending : Bool) (hclean : faultFrom false tokens = none)
    (hbreaks : BreaksOff behind) :
    appliedFrom pending (tokens ++ behind) +
        (pending || tokens.any fun sign => sign.kind.isAdditive).toNat =
      appliedFrom pending tokens := by
  fun_induction appliedFrom pending tokens with
  | case1 pending => simp [appliedFrom_of_breaksOff pending hbreaks]
  | case2 pending sign hsign => simp [faultFrom, hsign] at hclean
  | case3 pending sign hsign =>
      simp only [faultFrom, Bool.false_eq_true, if_false, if_true] at hclean
      split_ifs at hclean
  | case4 pending sign token rest hkind hsign ih =>
      rw [faultFrom_cons_cons (by simp [hsign]) hkind] at hclean
      have hrest := ih hclean
      have hfactors : sign.kind.isAdditive = false ∧
          token.kind.isAdditive = false := by
        simp [hsign, hkind, Kind.isAdditive]
      rw [List.any_cons, List.any_cons, hfactors.1, hfactors.2, Bool.false_or,
        Bool.false_or]
      simp only [List.cons_append, appliedFrom, hkind, hsign, if_true]
      omega
  | case5 pending sign token rest hkind hsign hadditive ih =>
      rw [faultFrom_cons_cons (Kind.ne_number_of_isAdditive hadditive) hkind]
        at hclean
      have hrest := ih hclean
      rw [Bool.true_or, Bool.toNat_true] at hrest
      simp only [List.cons_append, appliedFrom, hkind, hsign, hadditive,
        if_true, if_false, List.any_cons, Bool.true_or, Bool.or_true,
        Bool.toNat_true]
      omega
  | case6 pending sign token rest hkind hsign hadditive =>
      have hnumber := Kind.eq_number_of_not_operator hsign
        (Bool.eq_false_iff.mpr hadditive)
      simp [faultFrom, hnumber] at hclean
  | case7 pending sign token rest hkind hsign =>
      simp [faultFrom, hsign, hkind] at hclean
  | case8 pending sign token rest hkind hsign =>
      simp only [faultFrom, hkind, Bool.false_eq_true, if_false, if_true]
        at hclean
      split_ifs at hclean

theorem appliedFrom_append_of_fault {tokens : List Token} {fault : GrammarFault}
    (pending : Bool) (hfault : faultFrom false tokens = some fault)
    (hfinal : fault ≠ .numberExpected none) (behind : List Token) :
    appliedFrom pending (tokens ++ behind) = appliedFrom pending tokens := by
  fun_induction appliedFrom pending tokens with
  | case1 => simp [faultFrom] at hfault
  | case2 pending sign hsign =>
      simp only [faultFrom, hsign, reduceCtorEq, if_false, if_true,
        Bool.false_eq_true, Option.some.injEq] at hfault
      exact absurd hfault.symm hfinal
  | case3 pending sign hsign =>
      by_cases hnumber : sign.kind = .number
      · cases behind <;> simp [appliedFrom, hnumber, Kind.isAdditive]
      · simp only [faultFrom, hnumber, if_false, if_true, Bool.false_eq_true,
          Option.some.injEq] at hfault
        exact absurd hfault.symm hfinal
  | case4 pending sign token rest hkind hsign ih =>
      rw [faultFrom_cons_cons (by simp [hsign]) hkind] at hfault
      simp [appliedFrom, hkind, hsign, ih hfault]
  | case5 pending sign token rest hkind hsign hadditive ih =>
      rw [faultFrom_cons_cons (Kind.ne_number_of_isAdditive hadditive) hkind]
        at hfault
      simp [appliedFrom, hkind, hsign, hadditive, ih hfault]
  | case6 pending sign token rest hkind hsign hadditive =>
      simp [appliedFrom, hkind, hsign, hadditive]
  | case7 pending sign token rest hkind hsign =>
      simp [appliedFrom, hkind, hsign]
  | case8 pending sign token rest hkind hsign =>
      simp [appliedFrom, hkind, hsign]

/-! ## The outcome of reading more -/

theorem appliedCount_of_alternates {tokens : List Token}
    (halternates : Alternates tokens) (hodd : tokens.length % 2 = 1) :
    appliedCount tokens = tokens.length / 2 := by
  have hlength := frontLength_eq_length_iff.mpr halternates
  rw [appliedCount, hlength, if_pos hodd]
  omega

theorem foretold_cons {first : Token} {rest : List Token}
    (hfirst : first.kind = .number) :
    foretold (first :: rest) = verdict 0 false rest := by
  simp [foretold, verdict, appliedCount_cons hfirst, faultFrom, hfirst]

theorem foretold_cons_of_operator {sign : Token} {rest : List Token}
    (hsign : sign.kind ≠ .number) :
    foretold (sign :: rest) = some (.numberExpected (some sign.lexeme)) := by
  apply foretold_of_missing_number
  simp [readLiteral, hsign]

/-- The number in front of a complete chain, and the chain of operators and
operands behind it. -/
theorem exists_cons_of_alternates {tokens : List Token}
    (halternates : Alternates tokens) (hodd : tokens.length % 2 = 1) :
    ∃ first rest, tokens = first :: rest ∧ first.kind = .number ∧
      faultFrom false rest = none ∧
      appliedFrom false rest = tokens.length / 2 := by
  have hclean := faultFrom_eq_none_iff.mpr ⟨halternates, hodd⟩
  have hcount := appliedCount_of_alternates halternates hodd
  cases tokens with
  | nil => simp at hodd
  | cons first rest =>
      have hfirst : first.kind = .number :=
        (halternates 0 (Nat.zero_lt_succ _)).mpr rfl
      rw [appliedCount_cons hfirst] at hcount
      simp only [faultFrom, hfirst, if_true] at hclean
      exact ⟨first, rest, rfl, hfirst, hclean, hcount⟩

theorem limit_lt_appliedFrom_append {first : Token} {rest behind : List Token}
    (hfirst : first.kind = .number)
    (hlimit : operatorLimit < appliedFrom false rest)
    (hmore : ¬(ExceedsAtEnd (first :: rest) ∧ BreaksOff behind)) :
    operatorLimit < appliedFrom false (rest ++ behind) := by
  by_cases hopen : ¬BreaksOff behind ∨ faultFrom false rest ≠ none
  · exact Nat.lt_of_lt_of_le hlimit (appliedFrom_le_append false hopen)
  · rw [not_or, not_not, not_not] at hopen
    rcases hopen with ⟨hbreaks, hclean⟩
    have happlied := appliedFrom_append_of_breaksOff false hclean hbreaks
    rw [Bool.false_or] at happlied
    cases hadditive : rest.any fun sign => sign.kind.isAdditive with
    | false =>
        rw [hadditive, Bool.toNat_false, Nat.add_zero] at happlied
        rwa [happlied]
    | true =>
        -- The count falls by one, which matters right above the limit only.
        rw [hadditive, Bool.toNat_true] at happlied
        have hwhole : faultFrom true (first :: rest) = none := by
          simpa [faultFrom, hfirst] using hclean
        rcases faultFrom_eq_none_iff.mp hwhole with ⟨halternates, hodd⟩
        have hcount := appliedCount_of_alternates halternates hodd
        rw [appliedCount_cons hfirst] at hcount
        have hlength : (first :: rest).length ≠ 2 * 1025 + 1 := by
          intro hlength
          rcases List.any_eq_true.mp hadditive with ⟨sign, hmem, hsign⟩
          exact hmore ⟨⟨halternates, hlength, sign, List.mem_cons_of_mem first hmem,
            hsign⟩, hbreaks⟩
        rw [operatorLimit] at hlimit ⊢
        omega

theorem foretold_append {tokens behind : List Token} {fault : GrammarFault}
    (hfault : foretold tokens = some fault)
    (hfinal : fault ≠ .numberExpected none)
    (hmore : ¬(ExceedsAtEnd tokens ∧ BreaksOff behind)) :
    foretold (tokens ++ behind) = some fault := by
  cases tokens with
  | nil =>
      rw [foretold_of_missing_number rfl, Option.some.injEq] at hfault
      exact absurd hfault.symm hfinal
  | cons first rest =>
      rw [List.cons_append]
      by_cases hfirst : first.kind = .number
      · rw [foretold_cons hfirst, verdict, Nat.zero_add] at hfault ⊢
        by_cases hlimit : operatorLimit < appliedFrom false rest
        · have happlied := limit_lt_appliedFrom_append hfirst hlimit hmore
          rw [if_pos hlimit] at hfault
          rwa [if_pos happlied]
        · rw [if_neg hlimit] at hfault
          rw [appliedFrom_append_of_fault false hfault hfinal, if_neg hlimit]
          exact faultFrom_append hfault hfinal behind
      · rw [foretold_cons_of_operator hfirst] at hfault ⊢
        exact hfault

end Expr

namespace ExceedsAtEnd

variable {tokens : List Token}

theorem foretold (hexceeds : ExceedsAtEnd tokens) :
    Expr.foretold tokens = some .operatorLimitExceeded := by
  have hlength := hexceeds.length
  apply Expr.foretold_of_limit_lt
  rw [Expr.appliedCount_of_alternates hexceeds.alternates (by omega), hlength,
    operatorLimit]
  omega

theorem foretold_append (hexceeds : ExceedsAtEnd tokens) {behind : List Token}
    (hbreaks : BreaksOff behind) :
    Expr.foretold (tokens ++ behind) =
      some (.numberExpected (behind[1]?.map Token.lexeme)) := by
  have hlength := hexceeds.length
  rcases Expr.exists_cons_of_alternates hexceeds.alternates (by omega) with
    ⟨first, rest, rfl, hfirst, hclean, hcount⟩
  have hadditive : (rest.any fun sign => sign.kind.isAdditive) = true := by
    rcases hexceeds.additive with ⟨sign, hmem, hsign⟩
    rcases List.mem_cons.mp hmem with heq | hmem
    · rw [heq] at hsign
      exact absurd hfirst (Kind.ne_number_of_isAdditive hsign)
    · exact List.any_eq_true.mpr ⟨sign, hmem, hsign⟩
  have happlied := Expr.appliedFrom_append_of_breaksOff false hclean hbreaks
  rw [hadditive, Bool.or_true, Bool.toNat_true, hcount, hlength] at happlied
  have hlimit : ¬operatorLimit < 0 + Expr.appliedFrom false (rest ++ behind) := by
    rw [operatorLimit]
    omega
  rw [List.cons_append, Expr.foretold_cons hfirst, Expr.verdict, if_neg hlimit,
    Expr.faultFrom_append_of_none hclean, Expr.faultFrom_of_breaksOff hbreaks]

end ExceedsAtEnd

/-! ## Completing a chain -/

theorem alternates_concat_iff {tokens : List Token} {token : Token} :
    Alternates (tokens ++ [token]) ↔
      Alternates tokens ∧ (token.kind = .number ↔ tokens.length % 2 = 0) := by
  constructor
  · intro halternates
    refine ⟨?_, ?_⟩
    · intro position hposition
      have hkind := halternates position (by simp; omega)
      rwa [List.getElem_append_left hposition] at hkind
    · simpa using halternates tokens.length (by simp)
  · rintro ⟨halternates, hlast⟩ position hposition
    rcases Nat.lt_or_ge position tokens.length with hlt | hge
    · rw [List.getElem_append_left hlt]
      exact halternates position hlt
    · obtain rfl : position = tokens.length := by
        simp at hposition
        omega
      simpa using hlast

theorem Alternates.countP_operators {tokens : List Token}
    (halternates : Alternates tokens) :
    tokens.countP (fun token => token.kind ≠ .number) = tokens.length / 2 := by
  induction tokens using List.reverseRecOn with
  | nil => rfl
  | append_singleton tokens token ih =>
      rcases alternates_concat_iff.mp halternates with ⟨hfront, hlast⟩
      rw [List.countP_append, ih hfront, List.countP_singleton,
        List.length_append, List.length_singleton]
      by_cases heven : tokens.length % 2 = 0
      · simp [hlast.mpr heven]
        omega
      · simp [mt hlast.mp heven]
        omega

namespace Expr

theorem alternates_of_missing_end {tokens : List Token}
    (hmissing : foretold tokens = some (.numberExpected none)) :
    Alternates tokens ∧ tokens.length % 2 = 0 := by
  have hlength : frontLength tokens ≤ tokens.length := Nat.findGreatest_le _
  have hlimit : appliedCount tokens ≤ operatorLimit := by
    by_contra hlimit
    simp [foretold_of_limit_lt (Nat.lt_of_not_le hlimit)] at hmissing
  rw [foretold_of_le_limit hlimit] at hmissing
  split_ifs at hmissing with heven
  · have hfront : frontLength tokens = tokens.length := by
      simp at hmissing
      omega
    exact ⟨frontLength_eq_length_iff.mp hfront, by rwa [← hfront]⟩
  · simp at hmissing

theorem exists_completion_iff {tokens : List Token}
    (hmissing : foretold tokens = some (.numberExpected none)) :
    (∃ more tree, ofTokens (tokens ++ more) = .ok tree) ↔
      tokens.countP (fun token => token.kind ≠ .number) ≤ 1024 := by
  rcases alternates_of_missing_end hmissing with ⟨halternates, heven⟩
  constructor
  · rintro ⟨more, tree, hread⟩
    rcases exists_ofTokens_eq_ok_iff_alternates.mp ⟨tree, hread⟩ with
      ⟨count, hlimit, hlength, hwhole⟩
    have hcount := hwhole.countP_operators
    rw [List.countP_append, hlength] at hcount
    omega
  · intro hlimit
    rw [halternates.countP_operators] at hlimit
    refine ⟨[⟨.number, "0"⟩], ?_⟩
    rw [exists_ofTokens_eq_ok_iff_alternates]
    refine ⟨tokens.length / 2, hlimit, ?_, ?_⟩
    · rw [List.length_append, List.length_singleton]
      omega
    · exact alternates_concat_iff.mpr ⟨halternates, by simpa using heven⟩

/-- More tokens leave a fault as it is unless it is a number missing at the
end.  Only a limit that is exceeded at the very end gives way, to a product
that breaks off.  A number missing at the end can be supplied as long as the
tokens do not hold more operators than the limit allows. -/
theorem ofTokens_append_of_error (tokens behind : List Token) :
    (∀ cause, ofTokens tokens = .error cause →
        cause.expectation ≠ "a number, found end of input" →
        ¬(ExceedsAtEnd tokens ∧ BreaksOff behind) →
        ofTokens (tokens ++ behind) = .error cause) ∧
      (ExceedsAtEnd tokens → BreaksOff behind →
        ofTokens tokens = .error .operatorLimitExceeded ∧
          ofTokens (tokens ++ behind) =
            .error (.numberExpected (behind[1]?.map Token.lexeme))) ∧
      ∀ cause, ofTokens tokens = .error cause →
        cause.expectation = "a number, found end of input" →
        ((∃ more tree, ofTokens (tokens ++ more) = .ok tree) ↔
          tokens.countP (fun token => token.kind ≠ .number) ≤ 1024) := by
  refine ⟨?_, ?_, ?_⟩
  · intro cause hread htext hmore
    have hfinal : cause ≠ .numberExpected none := by
      intro hcause
      exact htext (by rw [hcause]; rfl)
    rw [ofTokens_eq_error_iff] at hread ⊢
    exact foretold_append hread hfinal hmore
  · intro hexceeds hbreaks
    rw [ofTokens_eq_error_iff, ofTokens_eq_error_iff]
    exact ⟨hexceeds.foretold, hexceeds.foretold_append hbreaks⟩
  · intro cause hread htext
    obtain rfl : cause = .numberExpected none :=
      GrammarFault.expectation_injective htext
    exact exists_completion_iff (ofTokens_eq_error_iff.mp hread)

/-- The tokens of `1 + 1 + ⋯ + 1` with `count` operators. -/
def sumOfOnes : Nat → List Token
  | 0 => [⟨.number, "1"⟩]
  | count + 1 => ⟨.number, "1"⟩ :: ⟨.plus, "+"⟩ :: sumOfOnes count

theorem sumOfOnes_length (count : Nat) :
    (sumOfOnes count).length = 2 * count + 1 := by
  induction count with
  | zero => rfl
  | succ count ih =>
      rw [sumOfOnes, List.length_cons, List.length_cons, ih]
      omega

theorem sumOfOnes_alternates (count : Nat) : Alternates (sumOfOnes count) := by
  have hclean : faultFrom true (sumOfOnes count) = none := by
    induction count with
    | zero => rfl
    | succ count ih => simpa [sumOfOnes, faultFrom] using ih
  exact (faultFrom_eq_none_iff.mp hclean).1

theorem exceedsAtEnd_sumOfOnes : ExceedsAtEnd (sumOfOnes 1025) where
  alternates := sumOfOnes_alternates 1025
  length := sumOfOnes_length 1025
  additive := ⟨⟨.plus, "+"⟩, List.mem_cons_of_mem _ List.mem_cons_self, rfl⟩

/-- A sum that exceeds the limit does so as long as its last product goes on
with numbers, and a misplaced sign stays misplaced. -/
theorem ofTokens_append_of_error_product :
    ofTokens (sumOfOnes 1025 ++ [⟨.times, "*"⟩, ⟨.number, "2"⟩]) =
        .error .operatorLimitExceeded ∧
      ofTokens ([⟨.number, "1"⟩, ⟨.plus, "+"⟩, ⟨.times, "*"⟩] ++
        [⟨.number, "2"⟩]) = .error (.numberExpected (some "*")) ∧
      ∃ more tree, ofTokens ([⟨.number, "1"⟩, ⟨.plus, "+"⟩] ++ more) = .ok tree := by
  have hlimit : ofTokens (sumOfOnes 1025) = .error .operatorLimitExceeded :=
    ofTokens_eq_error_iff.mpr exceedsAtEnd_sumOfOnes.foretold
  have hgoesOn : ¬BreaksOff [⟨.times, "*"⟩, ⟨.number, "2"⟩] := by
    simp [BreaksOff]
  have hshort : ¬ExceedsAtEnd [⟨.number, "1"⟩, ⟨.plus, "+"⟩, ⟨.times, "*"⟩] := by
    intro hexceeds
    simpa using hexceeds.length
  refine ⟨?_, ?_, ?_⟩
  · exact (ofTokens_append_of_error (sumOfOnes 1025) _).1 _ hlimit (by decide)
      fun hopen => hgoesOn hopen.2
  · exact (ofTokens_append_of_error _ _).1 _ (by cbv) (by decide)
      fun hopen => hshort hopen.1
  · exact ((ofTokens_append_of_error _ []).2.2 (.numberExpected none) (by cbv)
      rfl).mpr (by decide)

/-- The limit is exceeded by the last sum of a chain, and a sign behind the
chain keeps that sum from being applied. -/
theorem limit_hidden_by_open_product :
    (ofTokens (sumOfOnes 1025)).mapError GrammarFault.expectation =
        .error "an expression of at most 1024 operators" ∧
      (ofTokens (sumOfOnes 1025 ++ [⟨.times, "*"⟩])).mapError
          GrammarFault.expectation = .error "a number, found end of input" := by
  have hbreaks : BreaksOff [⟨.times, "*"⟩] := by simp [BreaksOff]
  rw [ofTokens_eq_error_iff.mpr exceedsAtEnd_sumOfOnes.foretold,
    ofTokens_eq_error_iff.mpr (exceedsAtEnd_sumOfOnes.foretold_append hbreaks)]
  exact ⟨rfl, rfl⟩

end Expr
end LineCalculator
