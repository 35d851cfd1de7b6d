import LineCalculator.Proofs.Expr.Shape
import Mathlib.Tactic

/-!
# Which fault a token list has

The front of a token list is its longest prefix that alternates between
numbers and operators.  What reading comes to depends on the length of the
front, on the token behind it, and on how many operators are applied before
reading stops.  An operator that still waits for its right operand is not
applied; it can be an additive one, in front of a product that breaks off.

The proof follows the tokens instead of the positions.  `verdict` foretells
the fault from any place between two operands, and each of the loops of the
grammar keeps it.
-/

namespace LineCalculator

def Alternates (tokens : List Token) : Prop :=
  ∀ position (_ : position < tokens.length),
    tokens[position].kind = .number ↔ position % 2 = 0

instance (tokens : List Token) : Decidable (Alternates tokens) :=
  inferInstanceAs (Decidable (∀ position (_ : position < tokens.length),
    tokens[position].kind = .number ↔ position % 2 = 0))

/-- The length of the longest prefix that alternates. -/
def frontLength (tokens : List Token) : Nat :=
  Nat.findGreatest (fun length => Alternates (tokens.take length)) tokens.length

/-- Whether the front ends with a multiplication and holds an additive
operator before it. -/
def breaksOffInProduct (tokens : List Token) : Bool :=
  tokens[frontLength tokens - 1]?.any (fun sign => sign.kind = .times) &&
    (tokens.take (frontLength tokens - 1)).any fun sign => sign.kind.isAdditive

/-- The number of operators applied when reading stops, the limit aside. -/
def appliedCount (tokens : List Token) : Nat :=
  if frontLength tokens % 2 = 1 then (frontLength tokens - 1) / 2
  else if frontLength tokens = 0 then 0
  else if breaksOffInProduct tokens then frontLength tokens / 2 - 2
  else frontLength tokens / 2 - 1

namespace Expr

/-! ## The verdict from a place between two operands -/

def faultFrom (numberDue : Bool) : List Token → Option GrammarFault
  | [] => if numberDue then some (.numberExpected none) else none
  | token :: rest =>
      if numberDue then
        if token.kind = .number then faultFrom false rest
        else some (.numberExpected (some token.lexeme))
      else
        if token.kind = .number then some (.endExpected token.lexeme)
        else faultFrom true rest

/-- The operators applied from a place behind an operand on; `pending` says
that an additive operator waits for the product at that place. -/
def appliedFrom (pending : Bool) : List Token → Nat
  | [] => pending.toNat
  | [sign] => if sign.kind = .times then 0 else pending.toNat
  | sign :: token :: rest =>
      if token.kind = .number then
        if sign.kind = .times then appliedFrom pending rest + 1
        else if sign.kind.isAdditive then
          appliedFrom true rest + pending.toNat
        else pending.toNat
      else if sign.kind = .times then 0 else pending.toNat

/-- The fault that reading comes to, from a place behind an operand. -/
def verdict (operators : Nat) (pending : Bool) (tokens : List Token) :
    Option GrammarFault :=
  if operatorLimit < operators + appliedFrom pending tokens then
    some .operatorLimitExceeded
  else faultFrom false tokens

theorem verdict_of_limit_lt {operators : Nat} {pending : Bool}
    {tokens : List Token} (hlimit : operatorLimit < operators) :
    verdict operators pending tokens = some .operatorLimitExceeded := by
  have hlt : operatorLimit < operators + appliedFrom pending tokens := by omega
  simp [verdict, hlt]

theorem verdict_cons_times {sign token : Token} {operators : Nat}
    {pending : Bool} {rest : List Token} (hsign : sign.kind = .times)
    (hkind : token.kind = .number) :
    verdict operators pending (sign :: token :: rest) =
      verdict (operators + 1) pending rest := by
  have hcount : operators + (appliedFrom pending rest + 1) =
      operators + 1 + appliedFrom pending rest := by omega
  simp [verdict, appliedFrom, faultFrom, hsign, hkind, hcount]

theorem verdict_cons_additive {sign token : Token} {operators : Nat}
    {rest : List Token} (hsign : sign.kind.isAdditive = true)
    (hkind : token.kind = .number) :
    verdict operators false (sign :: token :: rest) =
      verdict operators true rest := by
  have htimes := Kind.ne_times_of_isAdditive hsign
  have hnumber := Kind.ne_number_of_isAdditive hsign
  simp [verdict, appliedFrom, faultFrom, hsign, hkind, htimes, hnumber]

theorem verdict_pending {operators : Nat} {tokens : List Token}
    (hstop : ∀ token ∈ tokens.head?, token.kind ≠ .times) :
    verdict operators true tokens = verdict (operators + 1) false tokens := by
  have hcount : appliedFrom true tokens = appliedFrom false tokens + 1 := by
    cases tokens with
    | nil => rfl
    | cons sign rest =>
        have hsign : sign.kind ≠ .times := by simpa using hstop
        cases rest with
        | nil => simp [appliedFrom, hsign]
        | cons token rest =>
            simp only [appliedFrom, hsign, if_false]
            split_ifs <;> simp
  have hsum : operators + (appliedFrom false tokens + 1) =
      operators + 1 + appliedFrom false tokens := by omega
  simp [verdict, hcount, hsum]

theorem verdict_of_missing_number {sign : Token} {operators : Nat}
    {pending : Bool} {behind : List Token} {fault : GrammarFault}
    (hlimit : operators ≤ operatorLimit)
    (hsign : sign.kind = .times ∨ pending = false ∧ sign.kind.isAdditive = true)
    (hmissing : readLiteral behind = .error fault) :
    verdict operators pending (sign :: behind) = some fault := by
  have hnumber : sign.kind ≠ .number := by
    intro hnumber
    simp [hnumber, Kind.isAdditive] at hsign
  cases behind with
  | nil =>
      obtain rfl : GrammarFault.numberExpected none = fault := by
        simpa [readLiteral] using hmissing
      rcases hsign with hsign | ⟨rfl, _⟩
      · simp [verdict, appliedFrom, faultFrom, hsign, hlimit.not_gt]
      · simp [verdict, appliedFrom, faultFrom, hnumber, hlimit.not_gt]
  | cons token rest =>
      by_cases hkind : token.kind = .number
      · simp [readLiteral, hkind] at hmissing
      · obtain rfl : GrammarFault.numberExpected (some token.lexeme) = fault := by
          simpa [readLiteral, hkind] using hmissing
        rcases hsign with hsign | ⟨rfl, _⟩
        · simp [verdict, appliedFrom, faultFrom, hsign, hkind, hlimit.not_gt]
        · simp [verdict, appliedFrom, faultFrom, hkind, hnumber, hlimit.not_gt]

/-! ## The loops keep the verdict -/

theorem applyOperator_error_cases {operators : Nat} {operator : Kind}
    {left right : Expr} {fault : GrammarFault}
    (happly : applyOperator operators operator left right = .error fault) :
    operatorLimit < operators + 1 ∧ fault = .operatorLimitExceeded := by
  unfold applyOperator at happly
  split at happly
  · rename_i hlimit
    cases happly
    exact ⟨hlimit, rfl⟩
  · simp at happly

theorem extendProduct_verdict (left : Expr) {operators : Nat}
    (tokens : List Token) (pending : Bool)
    (hlimit : operators ≤ operatorLimit) :
    verdict operators pending tokens =
      match extendProduct left operators tokens with
      | .error fault => some fault
      | .ok reading => verdict reading.operators pending reading.rest := by
  fun_induction extendProduct left operators tokens with
  | case1 => rfl
  | case2 left operators sign behind hsign fault hmissing =>
      exact verdict_of_missing_number hlimit (.inl hsign) hmissing
  | case3 left operators sign behind hsign right rest hliteral fault happly =>
      rcases readLiteral_cases hliteral with ⟨token, rfl, hkind, rfl⟩
      rcases applyOperator_error_cases happly with ⟨hexceeded, rfl⟩
      rw [verdict_cons_times hsign hkind, verdict_of_limit_lt hexceeded]
  | case4 left operators sign behind hsign right rest hliteral expr count happly
      ih =>
      rcases readLiteral_cases hliteral with ⟨token, rfl, hkind, rfl⟩
      rcases applyOperator_cases happly with ⟨hlt, rfl, rfl⟩
      rw [verdict_cons_times hsign hkind]
      exact ih hlt
  | case5 => rfl

theorem readProduct_verdict {sign : Token} {operators : Nat}
    {behind : List Token} (hlimit : operators ≤ operatorLimit)
    (hsign : sign.kind.isAdditive = true) :
    verdict operators false (sign :: behind) =
      match readProduct operators behind with
      | .error fault => some fault
      | .ok right => verdict (right.operators + 1) false right.rest := by
  unfold readProduct
  cases hliteral : readLiteral behind with
  | error fault =>
      exact verdict_of_missing_number hlimit (.inr ⟨rfl, hsign⟩) hliteral
  | ok found =>
      rcases readLiteral_cases hliteral with ⟨token, rfl, hkind, hfirst⟩
      have hverdict := extendProduct_verdict found.1 found.2 true hlimit
      rw [verdict_cons_additive hsign hkind, hverdict]
      cases hproduct : extendProduct found.1 operators found.2 with
      | error fault => simp [hproduct]
      | ok right => simp [hproduct, verdict_pending (extendProduct_stop hproduct)]

theorem verdict_of_number {operators : Nat} {token : Token} {rest : List Token}
    (hlimit : operators ≤ operatorLimit) (hkind : token.kind = .number) :
    verdict operators false (token :: rest) =
      some (.endExpected token.lexeme) := by
  have hnone : appliedFrom false (token :: rest) = 0 := by
    cases rest <;> simp [appliedFrom, hkind, Kind.isAdditive]
  simp [verdict, hnone, faultFrom, hkind, hlimit.not_gt]

theorem extendSum_verdict (left : Expr) {operators : Nat}
    {tokens : List Token} (hlimit : operators ≤ operatorLimit)
    (hstop : ∀ token ∈ tokens.head?, token.kind ≠ .times) :
    verdict operators false tokens =
      match extendSum left operators tokens with
      | .error fault => some fault
      | .ok reading =>
          reading.rest.head?.map fun token => .endExpected token.lexeme := by
  fun_induction extendSum left operators tokens with
  | case1 left operators =>
      simp [verdict, appliedFrom, faultFrom, hlimit.not_gt]
  | case2 left operators sign behind hsign fault hmissing =>
      rw [readProduct_verdict hlimit hsign, hmissing]
  | case3 left operators sign behind hsign right hproduct fault happly =>
      rcases applyOperator_error_cases happly with ⟨hexceeded, rfl⟩
      rw [readProduct_verdict hlimit hsign, hproduct]
      exact verdict_of_limit_lt hexceeded
  | case4 left operators sign behind hsign right hproduct expr count happly ih =>
      rcases applyOperator_cases happly with ⟨hlt, rfl, rfl⟩
      rw [readProduct_verdict hlimit hsign, hproduct]
      exact ih hlt (readProduct_stop hproduct)
  | case5 left operators token behind hkind =>
      have htimes : token.kind ≠ .times := by simpa using hstop
      have hnumber := Kind.eq_number_of_not_operator htimes
        (Bool.eq_false_iff.mpr hkind)
      simp [verdict_of_number hlimit hnumber]

theorem ofTokens_verdict {first : Token} {rest : List Token}
    (hfirst : first.kind = .number) :
    verdict 0 false rest =
      match ofTokens (first :: rest) with
      | .error fault => some fault
      | .ok _ => none := by
  have hread : readProduct 0 (first :: rest) =
      extendProduct (.literal first) 0 rest := by
    simp [readProduct, readLiteral, hfirst]
  have hverdict := extendProduct_verdict (.literal first) rest false
    (Nat.zero_le operatorLimit)
  rw [← hread] at hverdict
  rw [hverdict, ofTokens, readSum]
  cases hproduct : readProduct 0 (first :: rest) with
  | error fault => rfl
  | ok product =>
      have hlimit := (readProduct_covers (Nat.zero_le _) hproduct).1.bounded
      have hsum := extendSum_verdict product.expr hlimit
        (readProduct_stop hproduct)
      simp only [hsum]
      cases hrest : extendSum product.expr product.operators product.rest with
      | error fault => rfl
      | ok sum => cases hcase : sum.rest <;> simp [hcase]

/-! ## Positions -/

def frontFrom (numberDue : Bool) : List Token → Nat
  | [] => 0
  | token :: rest =>
      if (token.kind = .number ↔ numberDue = true) then
        frontFrom (!numberDue) rest + 1
      else 0

theorem frontFrom_le_length (numberDue : Bool) (tokens : List Token) :
    frontFrom numberDue tokens ≤ tokens.length := by
  induction tokens generalizing numberDue with
  | nil => simp [frontFrom]
  | cons token rest ih =>
      simp only [frontFrom, List.length_cons]
      split_ifs
      · exact Nat.succ_le_succ (ih _)
      · exact Nat.zero_le _

theorem kind_of_lt_frontFrom {numberDue : Bool} {tokens : List Token}
    {position : Nat} {token : Token}
    (hposition : position < frontFrom numberDue tokens)
    (htoken : tokens[position]? = some token) :
    token.kind = .number ↔ (position % 2 = 0 ↔ numberDue = true) := by
  induction tokens generalizing numberDue position with
  | nil => simp at htoken
  | cons head rest ih =>
      by_cases hhead : head.kind = .number ↔ numberDue = true
      · cases position with
        | zero =>
            obtain rfl : head = token := by simpa using htoken
            simpa using hhead
        | succ position =>
            have hlt : position < frontFrom (!numberDue) rest := by
              simpa [frontFrom, hhead] using hposition
            rw [ih hlt (by simpa using htoken)]
            cases numberDue <;> simp <;> omega
      · simp [frontFrom, hhead] at hposition

theorem kind_at_frontFrom {numberDue : Bool} {tokens : List Token}
    {token : Token} (htoken : tokens[frontFrom numberDue tokens]? = some token) :
    token.kind = .number ↔
      ¬(frontFrom numberDue tokens % 2 = 0 ↔ numberDue = true) := by
  induction tokens generalizing numberDue with
  | nil => simp at htoken
  | cons head rest ih =>
      by_cases hhead : head.kind = .number ↔ numberDue = true
      · simp only [frontFrom, hhead, if_true, List.getElem?_cons_succ] at htoken ⊢
        rw [ih htoken]
        cases numberDue <;> simp <;> omega
      · simp only [frontFrom, hhead, if_false, List.getElem?_cons_zero,
          Option.some.injEq] at htoken ⊢
        subst htoken
        cases numberDue <;> simp_all

theorem frontLength_eq (tokens : List Token) :
    frontLength tokens = frontFrom true tokens := by
  have hlength := frontFrom_le_length true tokens
  rw [frontLength, Nat.findGreatest_eq_iff]
  refine ⟨hlength, ?_, ?_⟩
  · intro _ position hposition
    have hlt : position < frontFrom true tokens := by
      rw [List.length_take] at hposition
      omega
    have hkind := kind_of_lt_frontFrom hlt
      (List.getElem?_eq_getElem (Nat.lt_of_lt_of_le hlt hlength))
    simpa using hkind
  · intro longer hlonger hbound halternates
    have hlt : frontFrom true tokens < tokens.length := by omega
    have hkind := halternates (frontFrom true tokens) (by simp; omega)
    have hbreak := kind_at_frontFrom (List.getElem?_eq_getElem hlt)
    simp only [List.getElem_take] at hkind
    rw [hkind, iff_true_right rfl] at hbreak
    exact iff_not_self hbreak

theorem frontLength_eq_length_iff {tokens : List Token} :
    frontLength tokens = tokens.length ↔ Alternates tokens := by
  rw [frontLength, Nat.findGreatest_eq_iff]
  constructor
  · rintro ⟨_, halternates, _⟩
    by_cases hlength : tokens.length = 0
    · intro position hposition
      omega
    · simpa using halternates hlength
  · intro halternates
    refine ⟨Nat.le_refl _, fun _ => by simpa using halternates, ?_⟩
    intro longer hlonger hbound
    omega

theorem faultFrom_eq (numberDue : Bool) (tokens : List Token) :
    faultFrom numberDue tokens =
      if (frontFrom numberDue tokens % 2 = 0 ↔ numberDue = true) then
        some (.numberExpected
          (tokens[frontFrom numberDue tokens]?.map Token.lexeme))
      else
        tokens[frontFrom numberDue tokens]?.map fun token =>
          .endExpected token.lexeme := by
  induction tokens generalizing numberDue with
  | nil => cases numberDue <;> simp [faultFrom, frontFrom]
  | cons token rest ih =>
      cases numberDue with
      | true =>
          by_cases hkind : token.kind = .number
          · have hparity : (frontFrom false rest + 1) % 2 = 0 ↔
                ¬frontFrom false rest % 2 = 0 := by omega
            simp [faultFrom, frontFrom, hkind, ih, hparity]
          · simp [faultFrom, frontFrom, hkind]
      | false =>
          by_cases hkind : token.kind = .number
          · simp [faultFrom, frontFrom, hkind]
          · have hparity : (frontFrom true rest + 1) % 2 = 0 ↔
                ¬frontFrom true rest % 2 = 0 := by omega
            simp [faultFrom, frontFrom, hkind, ih, hparity]

/-- Whether an additive operator still waits where the front breaks off; it
may have been pending from the start. -/
def waitsFrom (pending : Bool) (tokens : List Token) : Bool :=
  tokens[frontFrom false tokens - 1]?.any (fun sign => sign.kind = .times) &&
    (pending || (tokens.take (frontFrom false tokens - 1)).any fun sign =>
      sign.kind.isAdditive)

theorem frontFrom_cons_cons {sign token : Token} {rest : List Token}
    (hsign : sign.kind ≠ .number) (hkind : token.kind = .number) :
    frontFrom false (sign :: token :: rest) = frontFrom false rest + 2 := by
  simp [frontFrom, hsign, hkind]

theorem waitsFrom_of_even {pending : Bool} {tokens : List Token}
    (hfront : frontFrom false tokens % 2 = 0) :
    waitsFrom pending tokens = false := by
  have hlast : ∀ sign, tokens[frontFrom false tokens - 1]? = some sign →
      sign.kind = .number := by
    intro sign hsign
    by_cases hzero : frontFrom false tokens = 0
    · rw [hzero, Nat.zero_sub, ← hzero] at hsign
      rw [kind_at_frontFrom hsign]
      simpa using hfront
    · have hlt : frontFrom false tokens - 1 < frontFrom false tokens := by omega
      rw [kind_of_lt_frontFrom hlt hsign]
      simp
      omega
  cases hsign : tokens[frontFrom false tokens - 1]? with
  | none => simp [waitsFrom, hsign]
  | some sign => simp [waitsFrom, hsign, hlast sign hsign]

theorem waitsFrom_cons_cons {sign token : Token} {rest : List Token}
    {pending : Bool} (hsign : sign.kind ≠ .number)
    (hkind : token.kind = .number) :
    waitsFrom pending (sign :: token :: rest) =
      waitsFrom (pending || sign.kind.isAdditive) rest := by
  cases hfront : frontFrom false rest with
  | zero =>
      have heven : frontFrom false (sign :: token :: rest) % 2 = 0 := by
        rw [frontFrom_cons_cons hsign hkind, hfront]
      rw [waitsFrom_of_even heven, waitsFrom_of_even (by rw [hfront])]
  | succ front =>
      have hnumber : token.kind.isAdditive = false := by
        simp [hkind, Kind.isAdditive]
      simp [waitsFrom, frontFrom_cons_cons hsign hkind, hfront, hnumber,
        Bool.or_assoc]

/-- All operators with a right operand are applied, one that was pending
included, unless one waits where the front breaks off. -/
theorem appliedFrom_add_waitsFrom (pending : Bool) (tokens : List Token) :
    appliedFrom pending tokens + (waitsFrom pending tokens).toNat =
      frontFrom false tokens / 2 + pending.toNat := by
  fun_induction appliedFrom pending tokens with
  | case1 pending => simp [frontFrom, waitsFrom]
  | case2 pending sign hsign => simp [frontFrom, waitsFrom, hsign]
  | case3 pending sign hsign =>
      by_cases hnumber : sign.kind = .number
      · simp [frontFrom, waitsFrom, hnumber]
      · simp [frontFrom, waitsFrom, hsign, hnumber]
  | case4 pending sign token rest hkind hsign ih =>
      have hnumber : sign.kind ≠ .number := by simp [hsign]
      rw [frontFrom_cons_cons hnumber hkind, waitsFrom_cons_cons hnumber hkind,
        hsign]
      simp only [Kind.isAdditive, Bool.or_false]
      omega
  | case5 pending sign token rest hkind hsign hadditive ih =>
      have hnumber := Kind.ne_number_of_isAdditive hadditive
      rw [frontFrom_cons_cons hnumber hkind, waitsFrom_cons_cons hnumber hkind,
        hadditive, Bool.or_true]
      rw [Bool.toNat_true] at ih
      omega
  | case6 pending sign token rest hkind hsign hadditive =>
      have hnumber := Kind.eq_number_of_not_operator hsign
        (Bool.eq_false_iff.mpr hadditive)
      simp [frontFrom, waitsFrom, hnumber]
  | case7 pending sign token rest hkind hsign =>
      simp [frontFrom, waitsFrom, hsign, hkind]
  | case8 pending sign token rest hkind hsign =>
      by_cases hnumber : sign.kind = .number
      · simp [frontFrom, waitsFrom, hnumber]
      · simp [frontFrom, waitsFrom, hsign, hnumber, hkind]

theorem appliedCount_cons {first : Token} {rest : List Token}
    (hfirst : first.kind = .number) :
    appliedCount (first :: rest) = appliedFrom false rest := by
  have hlength : frontLength (first :: rest) = frontFrom false rest + 1 := by
    simp [frontLength_eq, frontFrom, hfirst]
  have happlied := appliedFrom_add_waitsFrom false rest
  rw [Bool.toNat_false, Nat.add_zero] at happlied
  by_cases heven : frontFrom false rest % 2 = 0
  · rw [waitsFrom_of_even heven, Bool.toNat_false, Nat.add_zero] at happlied
    rw [appliedCount, hlength, if_pos (by omega), happlied, Nat.add_sub_cancel]
  · obtain ⟨front, hfront⟩ : ∃ front, frontFrom false rest = front + 1 :=
      Nat.exists_eq_succ_of_ne_zero (by omega)
    have hwaits : breaksOffInProduct (first :: rest) = waitsFrom false rest := by
      simp [breaksOffInProduct, waitsFrom, hlength, hfront, hfirst,
        Kind.isAdditive]
    rw [appliedCount, hwaits, hlength, if_neg (by omega), if_neg (by omega)]
    cases hcase : waitsFrom false rest
    · simp [hcase] at happlied ⊢
      omega
    · simp [hcase] at happlied ⊢
      omega

/-! ## The outcome of reading -/

def foretold (tokens : List Token) : Option GrammarFault :=
  if operatorLimit < appliedCount tokens then some .operatorLimitExceeded
  else faultFrom true tokens

theorem foretold_of_missing_number {tokens : List Token} {fault : GrammarFault}
    (hmissing : readLiteral tokens = .error fault) :
    foretold tokens = some fault := by
  cases tokens with
  | nil =>
      have hlength : frontLength [] = 0 := by simp [frontLength_eq, frontFrom]
      have hnone : appliedCount [] = 0 := by simp [appliedCount, hlength]
      simpa [foretold, hnone, faultFrom, readLiteral] using hmissing
  | cons token rest =>
      by_cases hkind : token.kind = .number
      · simp [readLiteral, hkind] at hmissing
      · have hlength : frontLength (token :: rest) = 0 := by
          simp [frontLength_eq, frontFrom, hkind]
        have hnone : appliedCount (token :: rest) = 0 := by
          simp [appliedCount, hlength]
        simpa [foretold, hnone, faultFrom, readLiteral, hkind] using hmissing

theorem foretold_eq (tokens : List Token) :
    foretold tokens =
      match ofTokens tokens with
      | .error fault => some fault
      | .ok _ => none := by
  cases hliteral : readLiteral tokens with
  | error fault =>
      rw [foretold_of_missing_number hliteral]
      simp [ofTokens, readSum, readProduct, hliteral]
  | ok found =>
      rcases readLiteral_cases hliteral with ⟨first, rfl, hkind, _⟩
      rw [← ofTokens_verdict hkind]
      simp [foretold, verdict, appliedCount_cons hkind, faultFrom, hkind]

theorem ofTokens_eq_error_iff {tokens : List Token} {fault : GrammarFault} :
    ofTokens tokens = .error fault ↔ foretold tokens = some fault := by
  rw [foretold_eq]
  cases ofTokens tokens <;> simp

theorem exists_ofTokens_eq_ok_iff {tokens : List Token} :
    (∃ expr, ofTokens tokens = .ok expr) ↔ foretold tokens = none := by
  rw [foretold_eq]
  cases ofTokens tokens <;> simp

theorem foretold_of_limit_lt {tokens : List Token}
    (hlimit : operatorLimit < appliedCount tokens) :
    foretold tokens = some .operatorLimitExceeded := by
  simp [foretold, hlimit]

theorem foretold_of_le_limit {tokens : List Token}
    (hlimit : appliedCount tokens ≤ operatorLimit) :
    foretold tokens =
      if frontLength tokens % 2 = 0 then
        some (.numberExpected (tokens[frontLength tokens]?.map Token.lexeme))
      else
        tokens[frontLength tokens]?.map fun token =>
          .endExpected token.lexeme := by
  simp [foretold, hlimit.not_gt, faultFrom_eq, frontLength_eq]

theorem foretold_eq_none_iff {tokens : List Token} :
    foretold tokens = none ↔
      frontLength tokens % 2 = 1 ∧ frontLength tokens = tokens.length ∧
        appliedCount tokens ≤ operatorLimit := by
  have hlength : frontLength tokens ≤ tokens.length := Nat.findGreatest_le _
  by_cases hlimit : appliedCount tokens ≤ operatorLimit
  · rw [foretold_of_le_limit hlimit]
    by_cases heven : frontLength tokens % 2 = 0
    · simp [heven]
    · simp [heven, hlimit]
      omega
  · simp [foretold_of_limit_lt (Nat.lt_of_not_le hlimit), hlimit]

theorem exists_ofTokens_eq_ok_iff_alternates {tokens : List Token} :
    (∃ tree, ofTokens tokens = .ok tree) ↔
      ∃ count ≤ 1024, tokens.length = 2 * count + 1 ∧ Alternates tokens := by
  rw [exists_ofTokens_eq_ok_iff, foretold_eq_none_iff,
    frontLength_eq_length_iff]
  constructor
  · rintro ⟨hodd, halternates, hlimit⟩
    have hlength := frontLength_eq_length_iff.mpr halternates
    rw [appliedCount, if_pos hodd, hlength] at hlimit
    rw [hlength] at hodd
    exact ⟨(tokens.length - 1) / 2, hlimit, by omega, halternates⟩
  · rintro ⟨count, hlimit, hcount, halternates⟩
    have hlength := frontLength_eq_length_iff.mpr halternates
    have hodd : frontLength tokens % 2 = 1 := by omega
    refine ⟨hodd, halternates, ?_⟩
    rw [appliedCount, if_pos hodd, hlength, hcount, operatorLimit]
    omega

/-- The outcome of reading in closed form, with the text of each fault.  The
limit is looked at when an operator is applied, so it hides a later fault
and is hidden by one that comes before the operator's turn. -/
theorem ofTokens_outcome (tokens : List Token) :
    let outcome := (ofTokens tokens).mapError GrammarFault.expectation
    (1024 < appliedCount tokens →
        outcome = .error "an expression of at most 1024 operators") ∧
      (appliedCount tokens ≤ 1024 → frontLength tokens % 2 = 0 →
        (∀ token, tokens[frontLength tokens]? = some token →
          outcome = .error ("a number, found '" ++ token.lexeme ++ "'")) ∧
        (frontLength tokens = tokens.length →
          outcome = .error "a number, found end of input")) ∧
      (appliedCount tokens ≤ 1024 → frontLength tokens % 2 = 1 →
        ∀ token, tokens[frontLength tokens]? = some token →
          outcome = .error ("end of expression, found '" ++ token.lexeme ++ "'")) ∧
      ((∃ expr, outcome = .ok expr) ↔
        frontLength tokens % 2 = 1 ∧ frontLength tokens = tokens.length ∧
          appliedCount tokens ≤ 1024) := by
  have herror : ∀ fault, foretold tokens = some fault →
      (ofTokens tokens).mapError GrammarFault.expectation =
        .error fault.expectation := by
    intro fault hfault
    rw [ofTokens_eq_error_iff.mpr hfault, Except.mapError]
  refine ⟨?_, ?_, ?_, ?_⟩
  · intro hlimit
    exact herror _ (foretold_of_limit_lt hlimit)
  · intro hlimit heven
    have hfault := foretold_of_le_limit hlimit
    rw [if_pos heven] at hfault
    refine ⟨?_, ?_⟩
    · intro token htoken
      rw [htoken] at hfault
      exact herror _ hfault
    · intro hend
      rw [hend, List.getElem?_length] at hfault
      exact herror _ hfault
  · intro hlimit hodd token htoken
    have hfault := foretold_of_le_limit hlimit
    rw [if_neg (by omega), htoken] at hfault
    exact herror _ hfault
  · have hok : (∃ expr, (ofTokens tokens).mapError GrammarFault.expectation =
        .ok expr) ↔ ∃ expr, ofTokens tokens = .ok expr := by
      cases ofTokens tokens <;> simp [Except.mapError]
    rw [hok, exists_ofTokens_eq_ok_iff, foretold_eq_none_iff]
    rfl

example :
    appliedCount [⟨.number, "1"⟩, ⟨.plus, "+"⟩, ⟨.number, "2"⟩, ⟨.times, "*"⟩,
      ⟨.number, "3"⟩, ⟨.times, "*"⟩] = 1 := by
  decide

end Expr
end LineCalculator
