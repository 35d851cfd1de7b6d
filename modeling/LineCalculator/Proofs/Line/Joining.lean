import LineCalculator.Proofs.Line.Fault
import LineCalculator.Proofs.Token.Concatenation
import Mathlib.Tactic

/-!
# Lines joined by an operator

Two lines with a value and an operator between them make a line again.  Its
tree holds the tree of the first line but not that of the second, whose
operators are nested anew on top of the first.  The sum of signed products is
the way around this: it cuts the tokens at their additive operators wherever
those stand, and an operator of the join is one of the places to cut.

`Line.Alternating` collects what the join of two lines keeps, the number of
operators included.  Only the limit is left out of it, so that the outcome of a
join can be told on both sides of the limit.
-/

namespace LineCalculator

/-- The number of operator signs in a text. -/
def signCount (text : List Char) : Nat :=
  text.countP fun c => c = '+' ∨ c = '-' ∨ c = '*'

/-! ## Sums of signed products -/

/-- A token that completes the group at hand does so wherever it stands. -/
theorem signedGroups_append_cons {joint : Token} {factor : Int}
    (hjoint : ∀ sign group rest, signedGroups sign group (joint :: rest) =
      (sign, group) :: signedGroups factor [] rest)
    (sign : Int) (group : List Nat) (tokens rest : List Token) :
    signedGroups sign group (tokens ++ joint :: rest) =
      signedGroups sign group tokens ++ signedGroups factor [] rest := by
  induction tokens generalizing sign group with
  | nil => simp [signedGroups, hjoint]
  | cons token tokens ih =>
      cases hkind : token.kind <;> simp [signedGroups, hkind, ih]

/-- Tokens without an additive operator stay within one group. -/
theorem exists_numbers_of_not_additive {tokens : List Token}
    (htokens : ∀ token ∈ tokens, token.kind.isAdditive = false) :
    ∃ numbers : List Nat, ∀ sign group rest,
      signedGroups sign group (tokens ++ rest) =
        signedGroups sign (group ++ numbers) rest := by
  induction tokens with
  | nil => exact ⟨[], by simp⟩
  | cons token tokens ih =>
      rw [List.forall_mem_cons] at htokens
      rcases ih htokens.2 with ⟨numbers, hnumbers⟩
      cases hkind : token.kind with
      | number =>
          refine ⟨token.natural :: numbers, ?_⟩
          intro sign group rest
          simp [signedGroups, hkind, hnumbers]
      | times =>
          refine ⟨numbers, ?_⟩
          intro sign group rest
          simp [signedGroups, hkind, hnumbers]
      | plus => simp [hkind, Kind.isAdditive] at htokens
      | minus => simp [hkind, Kind.isAdditive] at htokens

theorem groupTotal_append (first second : List (Int × List Nat)) :
    groupTotal (first ++ second) = groupTotal first + groupTotal second := by
  simp [groupTotal]

section SignedSum

variable {joint : Token} {first second : List Token}

theorem signedSum_append_plus (hjoint : joint.kind = .plus) :
    signedSum (first ++ joint :: second) = signedSum first + signedSum second := by
  have hgroups : ∀ sign group rest, signedGroups sign group (joint :: rest) =
      (sign, group) :: signedGroups 1 [] rest := by
    intro sign group rest
    simp [signedGroups, hjoint]
  rw [signedSum, signedGroups_append_cons hgroups, groupTotal_append]
  rfl

theorem signedSum_append_minus (hjoint : joint.kind = .minus)
    (hsecond : ∀ token ∈ second, token.kind.isAdditive = false) :
    signedSum (first ++ joint :: second) = signedSum first - signedSum second := by
  have hgroups : ∀ sign group rest, signedGroups sign group (joint :: rest) =
      (sign, group) :: signedGroups (-1) [] rest := by
    intro sign group rest
    simp [signedGroups, hjoint]
  rcases exists_numbers_of_not_additive hsecond with ⟨numbers, hnumbers⟩
  have hright : ∀ sign, signedGroups sign [] second = [(sign, numbers)] := by
    intro sign
    simpa [signedGroups] using hnumbers sign [] []
  rw [signedSum, signedGroups_append_cons hgroups, groupTotal_append, signedSum,
    signedSum, hright, hright]
  simp [groupTotal, Int.sub_eq_add_neg]

theorem signedSum_append_times (hjoint : joint.kind = .times)
    (hfirst : ∀ token ∈ first, token.kind.isAdditive = false)
    (hsecond : ∀ token ∈ second, token.kind.isAdditive = false) :
    signedSum (first ++ joint :: second) = signedSum first * signedSum second := by
  rcases exists_numbers_of_not_additive hfirst with ⟨numbers, hnumbers⟩
  rcases exists_numbers_of_not_additive hsecond with ⟨others, hothers⟩
  have hleft : signedGroups 1 [] first = [(1, numbers)] := by
    simpa [signedGroups] using hnumbers 1 [] []
  have hright : ∀ group, signedGroups 1 group second = [(1, group ++ others)] := by
    intro group
    simpa [signedGroups] using hothers 1 group []
  have hwhole : signedGroups 1 [] (first ++ joint :: second) =
      [(1, numbers ++ others)] := by
    rw [hnumbers, signedGroups]
    simp [hjoint, hright]
  rw [signedSum, signedSum, signedSum, hwhole, hleft, hright]
  simp [groupTotal]

end SignedSum

/-! ## Operators and their signs -/

theorem signCount_append (first second : List Char) :
    signCount (first ++ second) = signCount first + signCount second :=
  List.countP_append

theorem signCount_of_forall {text : List Char}
    (htext : ∀ c ∈ text, isBlank c = true ∨ c.isDigit = true) :
    signCount text = 0 := by
  rw [signCount, List.countP_eq_zero]
  intro c hc hsign
  rw [decide_eq_true_eq] at hsign
  rcases hsign with hsign | hsign | hsign
  all_goals
    have hclass := htext c hc
    rw [hsign] at hclass
    exact absurd hclass (by decide)

theorem Token.WellSpelled.signCount_lexeme {token : Token}
    (hspelled : token.WellSpelled) :
    signCount token.lexeme.toList = if token.kind ≠ .number then 1 else 0 := by
  rcases hspelled.cases_lexeme with ⟨hkind, _, hdigits⟩ | ⟨c, hlexeme, _, hsign⟩
  · rw [signCount_of_forall fun c hc => .inr (hdigits c hc)]
    simp [hkind]
  · rw [Kind.ofSign?_eq_some_iff] at hsign
    rcases hsign with ⟨hc, hkind⟩ | ⟨hc, hkind⟩ | ⟨hc, hkind⟩
    all_goals simp [signCount, hlexeme, hc, hkind]

theorem signCount_join {sign : Token} (hspelled : sign.WellSpelled)
    (hoperator : sign.kind ≠ .number) (first second : String) :
    signCount (first ++ sign.lexeme ++ second).toList =
      signCount first.toList + signCount second.toList + 1 := by
  have hsign := hspelled.signCount_lexeme
  rw [if_pos hoperator] at hsign
  rw [String.toList_append, String.toList_append, signCount_append,
    signCount_append, hsign]
  omega

theorem Layout.signCount_text (layout : Layout) :
    signCount layout.text =
      layout.tokens.countP fun token => token.kind ≠ .number := by
  have hlead : signCount layout.lead = 0 :=
    signCount_of_forall fun c hc => .inl (layout.blank c hc)
  have hpieces : ∀ pieces : List Piece,
      signCount (pieces.flatMap Piece.text) =
        (pieces.map Piece.token).countP fun token => token.kind ≠ .number := by
    intro pieces
    induction pieces with
    | nil => rfl
    | cons piece pieces ih =>
        have hgap : signCount piece.gap = 0 :=
          signCount_of_forall fun c hc => .inl (piece.blank c hc)
        rw [List.flatMap_cons, signCount_append, ih, Piece.text, signCount_append,
          hgap, piece.spelled.signCount_lexeme, List.map_cons, List.countP_cons]
        simp [Nat.add_comm]
  rw [text, signCount_append, hlead, Nat.zero_add, hpieces, tokens]

theorem Expr.Spells.operatorCount_and_length {expr : Expr} {tokens : List Token}
    (hspells : expr.Spells tokens) (hkinds : expr.WellKinded) :
    tokens.countP (fun token => token.kind ≠ .number) = expr.operatorCount ∧
      tokens.length = 2 * expr.operatorCount + 1 := by
  induction expr generalizing tokens with
  | literal token =>
      rw [spells_literal.mp hspells]
      simp [operatorCount, show token.kind = .number from hkinds]
  | binary operator left right ihLeft ihRight =>
      rcases hkinds with ⟨hoperator, hleftKinds, hrightKinds⟩
      rcases spells_binary.mp hspells with
        ⟨before, sign, after, htokens, hsign, hleft, hright⟩
      rcases ihLeft hleft hleftKinds with ⟨hleftCount, hleftLength⟩
      rcases ihRight hright hrightKinds with ⟨hrightCount, hrightLength⟩
      rw [htokens, List.countP_append, List.countP_cons, hleftCount, hrightCount,
        List.length_append, List.length_cons, hleftLength, hrightLength]
      simp only [operatorCount, hsign, hoperator, ne_eq, not_false_eq_true,
        decide_true, if_true]
      omega

/-! ## Alternating lines -/

theorem Alternates.append_cons {first second : List Token} {sign : Token}
    (hfirst : Alternates first) (hodd : first.length % 2 = 1)
    (hsign : sign.kind ≠ .number) (hsecond : Alternates second) :
    Alternates (first ++ sign :: second) := by
  intro position hposition
  rcases Nat.lt_trichotomy position first.length with hlt | heq | hgt
  · rw [List.getElem_append_left hlt]
    exact hfirst position hlt
  · subst heq
    simp [hsign, hodd]
  · rcases Nat.exists_eq_add_of_lt hgt with ⟨later, hlater⟩
    subst hlater
    have hbound : later < second.length := by
      simp only [List.length_append, List.length_cons] at hposition
      omega
    have hkind := hsecond later hbound
    have hindex : first.length + later + 1 - first.length = later + 1 := by omega
    rw [List.getElem_append_right (by omega)]
    simp only [hindex, List.getElem_cons_succ, hkind]
    omega

namespace Line

/-- A line that is an expression, but for the limit: its tokens alternate, and
it starts and ends with a number. -/
structure Alternating (source : String) (tokens : List Token) : Prop where
  scanned : (Line.tokens source).outcome = .ok tokens
  alternates : Alternates tokens
  length : tokens.length = 2 * signCount source.toList + 1

theorem exists_alternating_of_value {source : String} {value : Int64}
    (hvalue : (Line.value source).outcome = .ok value) :
    ∃ tokens, Alternating source tokens ∧
      value = Int64.ofInt (signedSum tokens) := by
  rcases value_outcome_eq_ok_iff.mp hvalue with
    ⟨tokens, tree, hscan, hread, htree⟩
  rcases Expr.ofTokens_eq_ok_iff.mp hread with ⟨hsum, hspells, _⟩
  rcases Expr.exists_ofTokens_eq_ok_iff_alternates.mp ⟨tree, hread⟩ with
    ⟨_, _, _, halternates⟩
  rcases hspells.operatorCount_and_length (Expr.isSum_iff.mp hsum).1 with
    ⟨hcount, hlength⟩
  rcases tokens_outcome_eq_ok_iff.mp hscan with ⟨layout, htext, htokens⟩
  have hsigns := layout.signCount_text
  rw [htext, htokens, hcount] at hsigns
  have hexpr := expr_outcome_eq_ok_iff.mpr ⟨tokens, hscan, hread⟩
  rw [(evaluable_of_expr hexpr).value, hsum.integer_eq_signedSum hspells,
    Except.ok.injEq] at htree
  exact ⟨tokens, ⟨hscan, halternates, by rw [hlength, hsigns]⟩, htree.symm⟩

namespace Alternating

variable {source first second : String} {tokens firstTokens secondTokens : List Token}

theorem value (hsource : Alternating source tokens)
    (hlimit : signCount source.toList ≤ operatorLimit) :
    (Line.value source).outcome = .ok (Int64.ofInt (signedSum tokens)) := by
  rcases Expr.exists_ofTokens_eq_ok_iff_alternates.mpr
    ⟨_, hlimit, hsource.length, hsource.alternates⟩ with ⟨tree, hread⟩
  rcases Expr.ofTokens_eq_ok_iff.mp hread with ⟨hsum, hspells, _⟩
  have hexpr := expr_outcome_eq_ok_iff.mpr ⟨tokens, hsource.scanned, hread⟩
  have htree := (evaluable_of_expr hexpr).value
  rw [hsum.integer_eq_signedSum hspells] at htree
  exact value_outcome_eq_ok_iff.mpr ⟨tokens, tree, hsource.scanned, hread, htree⟩

theorem value_of_limit_lt (hsource : Alternating source tokens)
    (hlimit : operatorLimit < signCount source.toList) :
    (Line.value source).outcome = .error (.grammar .operatorLimitExceeded) := by
  have hlength := hsource.length
  have hfront : frontLength tokens = tokens.length :=
    Expr.frontLength_eq_length_iff.mpr hsource.alternates
  have happlied : appliedCount tokens = signCount source.toList := by
    rw [appliedCount, if_pos (by omega), hfront, hlength]
    omega
  have hread : Expr.ofTokens tokens = .error .operatorLimitExceeded := by
    rw [Expr.ofTokens_eq_error_iff]
    apply Expr.foretold_of_limit_lt
    rwa [happlied]
  rw [value_outcome_eq_error_iff, expr_outcome_eq_error_iff]
  exact .inr ⟨tokens, _, hsource.scanned, hread, rfl⟩

theorem join (hfirst : Alternating first firstTokens)
    (hsecond : Alternating second secondTokens) {sign : Token}
    (hspelled : sign.WellSpelled) (hoperator : sign.kind ≠ .number) :
    Alternating (first ++ sign.lexeme ++ second)
      (firstTokens ++ sign :: secondTokens) := by
  rcases hspelled.cases_lexeme with ⟨hnumber, _⟩ | ⟨c, hlexeme, hdigit, _⟩
  · contradiction
  have hbefore : cutsNumber first.toList sign.lexeme.toList = false := by
    apply cutsNumber_of_head?
    simpa [hlexeme] using hdigit
  have hbehind : cutsNumber (first ++ sign.lexeme).toList second.toList = false := by
    apply cutsNumber_of_getLast?
    simpa [hlexeme] using hdigit
  have hlength := hfirst.length
  refine ⟨?_, ?_, ?_⟩
  · rw [tokens_append_eq_ok_iff hbehind]
    refine ⟨firstTokens ++ [sign], secondTokens, ?_, hsecond.scanned, by simp⟩
    rw [tokens_append_eq_ok_iff hbefore]
    exact ⟨firstTokens, [sign], hfirst.scanned, tokens_lexeme hspelled, rfl⟩
  · apply hfirst.alternates.append_cons _ hoperator hsecond.alternates
    omega
  · rw [signCount_join hspelled hoperator, List.length_append, List.length_cons,
      hfirst.length, hsecond.length]
    omega

theorem value_join (hfirst : Alternating first firstTokens)
    (hsecond : Alternating second secondTokens) {sign : Token}
    (hspelled : sign.WellSpelled) (hoperator : sign.kind ≠ .number)
    (hlimit : signCount first.toList + signCount second.toList + 1 ≤
      operatorLimit) :
    (Line.value (first ++ sign.lexeme ++ second)).outcome =
      .ok (Int64.ofInt (signedSum (firstTokens ++ sign :: secondTokens))) := by
  apply (hfirst.join hsecond hspelled hoperator).value
  rwa [signCount_join hspelled hoperator]

theorem value_join_of_limit_lt (hfirst : Alternating first firstTokens)
    (hsecond : Alternating second secondTokens) {sign : Token}
    (hspelled : sign.WellSpelled) (hoperator : sign.kind ≠ .number)
    (hlimit : operatorLimit <
      signCount first.toList + signCount second.toList + 1) :
    (Line.value (first ++ sign.lexeme ++ second)).outcome =
      .error (.grammar .operatorLimitExceeded) := by
  apply (hfirst.join hsecond hspelled hoperator).value_of_limit_lt
  rwa [signCount_join hspelled hoperator]

theorem not_additive (hsource : Alternating source tokens)
    (hplus : '+' ∉ source.toList) (hminus : '-' ∉ source.toList) :
    ∀ token ∈ tokens, token.kind.isAdditive = false := by
  rcases tokens_outcome_eq_ok_iff.mp hsource.scanned with ⟨layout, htext, htokens⟩
  intro token htoken
  rw [← htokens] at htoken
  rcases List.mem_map.mp htoken with ⟨piece, hpiece, hpieceToken⟩
  have hmem : ∀ c ∈ token.lexeme.toList, c ∈ source.toList := by
    intro c hc
    rw [← htext, Layout.text, List.mem_append, List.mem_flatMap]
    refine .inr ⟨piece, hpiece, ?_⟩
    rw [Piece.text, hpieceToken]
    exact List.mem_append_left _ hc
  have hspelled := piece.spelled
  rw [hpieceToken, Token.WellSpelled] at hspelled
  cases hkind : token.kind with
  | number => rfl
  | times => rfl
  | plus =>
      simp only [hkind] at hspelled
      exact absurd (hmem '+' (by simp [hspelled])) hplus
  | minus =>
      simp only [hkind] at hspelled
      exact absurd (hmem '-' (by simp [hspelled])) hminus

end Alternating
end Line

/-- The value of a join is that of the operator on the two values.  A
subtraction asks that nothing be added or subtracted behind it, and a
multiplication that this is so on both sides.  A join with more operators than
the limit allows fails for that reason, whatever its operator. -/
theorem Line.value_of_join (first second : String) (x y : Int64)
    (hfirst : (Line.value first).outcome = .ok x)
    (hsecond : (Line.value second).outcome = .ok y) :
    (signCount first.toList + signCount second.toList + 1 ≤ 1024 →
        (Line.value (first ++ "+" ++ second)).outcome = .ok (x + y) ∧
        (Line.value (second ++ "+" ++ first)).outcome = .ok (x + y) ∧
        ('+' ∉ second.toList → '-' ∉ second.toList →
          (Line.value (first ++ "-" ++ second)).outcome = .ok (x - y) ∧
          ('+' ∉ first.toList → '-' ∉ first.toList →
            (Line.value (first ++ "*" ++ second)).outcome = .ok (x * y)))) ∧
      (1024 < signCount first.toList + signCount second.toList + 1 →
        ∀ sign ∈ ["+", "-", "*"], ∃ cause,
          (Line.value (first ++ sign ++ second)).outcome =
              .error (.grammar cause) ∧
            cause.expectation = "an expression of at most 1024 operators") := by
  rcases exists_alternating_of_value hfirst with ⟨firstTokens, hleft, hx⟩
  rcases exists_alternating_of_value hsecond with ⟨secondTokens, hright, hy⟩
  have hplus : (Token.mk .plus "+").WellSpelled := rfl
  have hminus : (Token.mk .minus "-").WellSpelled := rfl
  have htimes : (Token.mk .times "*").WellSpelled := rfl
  refine ⟨?_, ?_⟩
  · intro hlimit
    have hswapped : signCount second.toList + signCount first.toList + 1 ≤ 1024 := by
      omega
    refine ⟨?_, ?_, ?_⟩
    · have hvalue := hleft.value_join hright hplus (by simp) hlimit
      rwa [signedSum_append_plus rfl, Int64.ofInt_add, ← hx, ← hy] at hvalue
    · have hvalue := hright.value_join hleft hplus (by simp) hswapped
      rwa [signedSum_append_plus rfl, Int64.ofInt_add, ← hx, ← hy,
        Int64.add_comm] at hvalue
    · intro hsecondPlus hsecondMinus
      have hproduct := hright.not_additive hsecondPlus hsecondMinus
      refine ⟨?_, ?_⟩
      · have hvalue := hleft.value_join hright hminus (by simp) hlimit
        rwa [signedSum_append_minus rfl hproduct, Int64.ofInt_sub, ← hx, ← hy]
          at hvalue
      · intro hfirstPlus hfirstMinus
        have hfactor := hleft.not_additive hfirstPlus hfirstMinus
        have hvalue := hleft.value_join hright htimes (by simp) hlimit
        rwa [signedSum_append_times rfl hfactor hproduct, Int64.ofInt_mul, ← hx,
          ← hy] at hvalue
  · intro hlimit sign hsign
    refine ⟨.operatorLimitExceeded, ?_, rfl⟩
    simp only [List.mem_cons, List.not_mem_nil, or_false] at hsign
    rcases hsign with hsign | hsign | hsign
    · have hfault := hleft.value_join_of_limit_lt hright hplus (by simp) hlimit
      rwa [hsign]
    · have hfault := hleft.value_join_of_limit_lt hright hminus (by simp) hlimit
      rwa [hsign]
    · have hfault := hleft.value_join_of_limit_lt hright htimes (by simp) hlimit
      rwa [hsign]

/-- The value that is taken away is itself a wrapped one. -/
theorem Line.value_of_join_wrapped :
    (Line.value ("1 - 2" ++ "-" ++ "9223372036854775807*2 ")).outcome = .ok 1 := by
  have hleft : Line.Alternating "1 - 2"
      [⟨.number, "1"⟩, ⟨.minus, "-"⟩, ⟨.number, "2"⟩] :=
    ⟨by cbv, by decide, by decide⟩
  have hright : Line.Alternating "9223372036854775807*2 "
      [⟨.number, "9223372036854775807"⟩, ⟨.times, "*"⟩, ⟨.number, "2"⟩] :=
    ⟨by cbv, by decide, by decide⟩
  have hfirst : (Line.value "1 - 2").outcome = .ok (-1) :=
    hleft.value (by decide)
  have hsecond : (Line.value "9223372036854775807*2 ").outcome = .ok (-2) :=
    hright.value (by decide)
  have hjoin := (Line.value_of_join _ _ _ _ hfirst hsecond).1 (by decide)
  exact (hjoin.2.2 (by decide) (by decide)).1

end LineCalculator
