import LineCalculator.Expr.Value
import LineCalculator.Proofs.Expr.Shape
import Mathlib.Tactic

/-!
# The integer that an expression stands for

Words of 64 bits wrap around at every digit and at every operator.  Reducing
an integer to a word respects sums, differences and products, so all the
wrapping together is one reduction of the exact result.
-/

namespace LineCalculator

/-- The number that the text of a token writes in base ten. -/
def Token.natural (token : Token) : Nat :=
  Nat.ofDigitChars 10 token.lexeme.toList 0

def Token.IsNumeral (token : Token) : Prop :=
  token.kind = .number ∧ token.lexeme.toList ≠ [] ∧
    ∀ c ∈ token.lexeme.toList, c.isDigit = true

def Kind.integer (operator : Kind) (left right : Int) : Int :=
  match operator with
  | .plus => left + right
  | .minus => left - right
  | .times => left * right
  | .number => 0

namespace Expr

/-- The value of an expression without any wrapping. -/
def integer : Expr → Int
  | .literal token => token.natural
  | .binary operator left right => operator.integer left.integer right.integer

def Evaluable : Expr → Prop
  | .literal token => token.IsNumeral
  | .binary operator left right =>
      operator ≠ .number ∧ left.Evaluable ∧ right.Evaluable

end Expr

/-! ## Reduction to words -/

theorem appendDigit_ofNat {c : Char} (start : Nat) (hdigit : c.isDigit = true) :
    appendDigit (Int64.ofNat start) c =
      some (Int64.ofNat (10 * start + (c.toNat - '0'.toNat))) := by
  rw [Nat.mul_comm, Int64.ofNat_add, Int64.ofNat_mul]
  simp [appendDigit, digit?, hdigit]

theorem foldlM_appendDigit {digits : List Char}
    (hdigits : ∀ c ∈ digits, c.isDigit = true) (start : Nat) :
    digits.foldlM appendDigit (Int64.ofNat start) =
      some (Int64.ofNat (Nat.ofDigitChars 10 digits start)) := by
  induction digits generalizing start with
  | nil => simp
  | cons c digits ih =>
      have hrest : ∀ d ∈ digits, d.isDigit = true := by
        intro d hd
        exact hdigits d (List.mem_cons_of_mem c hd)
      rw [List.foldlM_cons, appendDigit_ofNat start (hdigits c (by simp)),
        Nat.ofDigitChars_cons]
      exact ih hrest _

theorem Token.IsNumeral.value {token : Token} (hnumeral : token.IsNumeral) :
    token.value = .ok (Int64.ofInt token.natural) := by
  rcases hnumeral with ⟨hkind, hne, hdigits⟩
  have htext : token.lexeme ≠ "" := by
    intro hempty
    simp [hempty] at hne
  have hfold := foldlM_appendDigit hdigits 0
  rw [Int64.ofInt_eq_ofNat]
  simp only [Token.value, hkind, readDecimal, htext, if_false]
  rw [show (0 : Int64) = Int64.ofNat 0 from rfl, hfold]
  rfl

theorem Kind.apply_ofInt {operator : Kind} (hoperator : operator ≠ .number)
    (left right : Int) :
    operator.apply (Int64.ofInt left) (Int64.ofInt right) =
      .ok (Int64.ofInt (operator.integer left right)) := by
  cases operator with
  | plus => simp [apply, integer]
  | minus => simp [apply, integer]
  | times => simp [apply, integer]
  | number => contradiction

theorem Expr.Evaluable.value {expr : Expr} (hexpr : expr.Evaluable) :
    expr.value = .ok (Int64.ofInt expr.integer) := by
  induction expr with
  | literal token => exact Token.IsNumeral.value hexpr
  | binary operator left right ihLeft ihRight =>
      rcases hexpr with ⟨hoperator, hleft, hright⟩
      simp only [Expr.value, ihLeft hleft, ihRight hright]
      exact Kind.apply_ofInt hoperator left.integer right.integer

/-! ## Sums of signed products -/

/-- Cuts tokens at their additive operators.  A group is the sign in front of
it and its numbers; `sign` and `group` are those of the group at hand. -/
def signedGroups (sign : Int) (group : List Nat) :
    List Token → List (Int × List Nat)
  | [] => [(sign, group)]
  | token :: rest =>
      match token.kind with
      | .number => signedGroups sign (group ++ [token.natural]) rest
      | .times => signedGroups sign group rest
      | .plus => (sign, group) :: signedGroups 1 [] rest
      | .minus => (sign, group) :: signedGroups (-1) [] rest

def groupTotal (groups : List (Int × List Nat)) : Int :=
  (groups.map fun group => group.1 * (group.2.prod : Int)).sum

def signedSum (tokens : List Token) : Int :=
  groupTotal (signedGroups 1 [] tokens)

namespace Expr

theorem IsProduct.signedGroups_append {expr : Expr} {tokens : List Token}
    (hproduct : expr.IsProduct) (hspells : expr.Spells tokens) :
    ∃ numbers : List Nat, expr.integer = numbers.prod ∧
      ∀ sign group rest, signedGroups sign group (tokens ++ rest) =
        signedGroups sign (group ++ numbers) rest := by
  induction hproduct generalizing tokens with
  | @number token hkind =>
      rcases spells_literal.mp hspells with rfl
      refine ⟨[token.natural], by simp [integer], ?_⟩
      intro sign group rest
      simp [signedGroups, hkind]
  | @times left token _ hkind ih =>
      obtain ⟨before, operator, after, rfl, hoperator, hleft, hright⟩ :=
        spells_binary.mp hspells
      rcases spells_literal.mp hright with rfl
      rcases ih hleft with ⟨numbers, hvalue, hgroups⟩
      refine ⟨numbers ++ [token.natural], ?_, ?_⟩
      · simp [integer, Kind.integer, hvalue]
      · intro sign group rest
        simp [hgroups, signedGroups, hoperator, hkind]

/-- A sum leaves its last group open and all others complete. -/
theorem IsSum.signedGroups_append {expr : Expr} {tokens : List Token}
    (hsum : expr.IsSum) (hspells : expr.Spells tokens) :
    ∃ complete sign group,
      expr.integer = groupTotal complete + groupTotal [(sign, group)] ∧
      ∀ rest, signedGroups 1 [] (tokens ++ rest) =
        complete ++ signedGroups sign group rest := by
  induction hsum generalizing tokens with
  | product hproduct =>
      rcases hproduct.signedGroups_append hspells with ⟨numbers, hvalue, hgroups⟩
      refine ⟨[], 1, numbers, ?_, ?_⟩
      · simp [groupTotal, hvalue]
      · intro rest
        simp [hgroups]
  | @join operator left right hoperator _ hproduct ih =>
      obtain ⟨before, joint, after, rfl, rfl, hleft, hright⟩ :=
        spells_binary.mp hspells
      rcases ih hleft with ⟨complete, sign, group, hvalue, hgroups⟩
      obtain ⟨numbers, hnumbers, hproducts⟩ :=
        hproduct.signedGroups_append hright
      cases hkind : joint.kind with
      | plus =>
          refine ⟨complete ++ [(sign, group)], 1, numbers, ?_, ?_⟩
          · simp [integer, Kind.integer, groupTotal, hvalue, hnumbers]
          · intro rest
            simp [hgroups, signedGroups, hkind, hproducts]
      | minus =>
          refine ⟨complete ++ [(sign, group)], -1, numbers, ?_, ?_⟩
          · simp [integer, Kind.integer, groupTotal, hvalue, hnumbers,
              Int.sub_eq_add_neg]
          · intro rest
            simp [hgroups, signedGroups, hkind, hproducts]
      | times => simp [hkind, Kind.isAdditive] at hoperator
      | number => simp [hkind, Kind.isAdditive] at hoperator

theorem IsSum.integer_eq_signedSum {expr : Expr} {tokens : List Token}
    (hsum : expr.IsSum) (hspells : expr.Spells tokens) :
    expr.integer = signedSum tokens := by
  obtain ⟨complete, sign, group, hvalue, hgroups⟩ :=
    hsum.signedGroups_append hspells
  have htokens := hgroups []
  rw [List.append_nil] at htokens
  rw [hvalue, signedSum, htokens]
  simp [signedGroups, groupTotal]

theorem evaluable_of_spells {expr : Expr} {tokens : List Token}
    (hkinds : expr.WellKinded) (hspells : expr.Spells tokens)
    (hnumerals : ∀ token ∈ tokens, token.kind = .number → token.IsNumeral) :
    expr.Evaluable := by
  induction expr generalizing tokens with
  | literal token =>
      rcases spells_literal.mp hspells with rfl
      exact hnumerals token (by simp) hkinds
  | binary operator left right ihLeft ihRight =>
      rcases hkinds with ⟨hoperator, hleftKinds, hrightKinds⟩
      obtain ⟨before, sign, after, rfl, _, hleft, hright⟩ :=
        spells_binary.mp hspells
      refine ⟨hoperator, ihLeft hleftKinds hleft ?_,
        ihRight hrightKinds hright ?_⟩
      · intro token hmem
        exact hnumerals token (by simp [hmem])
      · intro token hmem
        exact hnumerals token (by simp [hmem])

end Expr

end LineCalculator
