import LineCalculator.Proofs.Expr.Integer
import Mathlib.Tactic

/-!
# Which fault an expression has

Evaluation ends at the first fault on its way.  `Expr.faults` lists every
fault of a tree in the order of that way, operands before their operator, and
`Expr.value_eq_error_iff` says that the first of the list is the outcome.

In a tree that was read from tokens the leaves are numbers and the nodes are
operators.  What can be wrong with it then is the text of a number, and the
way through the tree passes the numbers in the order of the tokens.
-/

namespace LineCalculator

/-- Why a token has no value as a leaf. -/
def Token.fault? (token : Token) : Option ValueFault :=
  if token.kind ≠ .number then some (.notLiteral token.kind)
  else if token.lexeme = "" then some .emptyLiteral
  else if token.lexeme.toList.all Char.isDigit then none
  else some (.notDecimal token.lexeme)

/-- Why a node with this operator has no value. -/
def Kind.fault? (operator : Kind) : Option ValueFault :=
  if operator = .number then some (.notOperator .number) else none

def Expr.faults : Expr → List ValueFault
  | .literal token => token.fault?.toList
  | .binary operator left right =>
      left.faults ++ right.faults ++ operator.fault?.toList

theorem Token.fault?_eq_none_iff {token : Token} :
    token.fault? = none ↔ token.IsNumeral := by
  by_cases hkind : token.kind = .number
  · by_cases hempty : token.lexeme = ""
    · simp [fault?, IsNumeral, hkind, hempty]
    · simp [fault?, IsNumeral, hkind, hempty]
  · simp [fault?, IsNumeral, hkind]

theorem Kind.fault?_eq_none_iff {operator : Kind} :
    operator.fault? = none ↔ operator ≠ .number := by
  simp [fault?]

/-! ## The first fault is the outcome -/

theorem foldlM_appendDigit_eq_none {text : List Char} (start : Int64)
    (htext : ∃ c ∈ text, c.isDigit = false) :
    text.foldlM appendDigit start = none := by
  induction text generalizing start with
  | nil => simp at htext
  | cons c text ih =>
      cases hdigit : c.isDigit with
      | true =>
          have hrest : ∃ d ∈ text, d.isDigit = false := by
            simpa [hdigit] using htext
          simp [List.foldlM_cons, appendDigit, digit?, hdigit, ih _ hrest]
      | false => simp [List.foldlM_cons, appendDigit, digit?, hdigit]

theorem Token.value_eq_error_iff {token : Token} {fault : ValueFault} :
    token.value = .error fault ↔ token.fault? = some fault := by
  by_cases hkind : token.kind = .number
  · by_cases hempty : token.lexeme = ""
    · simp [Token.value, readDecimal, fault?, hkind, hempty]
    · by_cases htext : ∀ c ∈ token.lexeme.toList, c.isDigit = true
      · have hnumeral : token.IsNumeral := ⟨hkind, by simpa using hempty, htext⟩
        have hnone : token.fault? = none := by
          rw [fault?, if_neg (not_not.mpr hkind), if_neg hempty, if_pos]
          simpa using htext
        simp [hnumeral.value, hnone]
      · have hother : ∃ c ∈ token.lexeme.toList, c.isDigit = false := by
          simpa using htext
        have hfold := foldlM_appendDigit_eq_none 0 hother
        simp [Token.value, readDecimal, fault?, hkind, hempty, hfold, hother]
  · cases hcase : token.kind with
    | number => contradiction
    | plus => simp [Token.value, fault?, hcase]
    | minus => simp [Token.value, fault?, hcase]
    | times => simp [Token.value, fault?, hcase]

theorem Kind.apply_eq_error_iff {operator : Kind} {left right : Int64}
    {fault : ValueFault} :
    operator.apply left right = .error fault ↔ operator.fault? = some fault := by
  cases operator <;> simp [apply, fault?]

theorem first_eq_none_of_ok {α ε : Type} {outcome : Except ε α}
    {first : Option ε} {result : α}
    (hfirst : ∀ cause, outcome = .error cause ↔ first = some cause)
    (hok : outcome = .ok result) : first = none := by
  rw [Option.eq_none_iff_forall_ne_some]
  intro cause hcause
  rw [← hfirst, hok] at hcause
  cases hcause

namespace Expr

theorem faults_binary_head? (operator : Kind) (left right : Expr) :
    (binary operator left right).faults.head? =
      left.faults.head?.or (right.faults.head?.or operator.fault?) := by
  simp [faults, List.head?_append]

theorem value_eq_error_iff {expr : Expr} {fault : ValueFault} :
    expr.value = .error fault ↔ expr.faults.head? = some fault := by
  induction expr generalizing fault with
  | literal token => simp [value, faults, Token.value_eq_error_iff]
  | binary operator left right ihLeft ihRight =>
      rw [faults_binary_head?]
      cases hleft : left.value with
      | error cause =>
          rw [ihLeft.mp hleft]
          simp [value, hleft, Bind.bind, Except.bind]
      | ok first =>
          rw [first_eq_none_of_ok (fun _ => ihLeft) hleft, Option.none_or]
          cases hright : right.value with
          | error cause =>
              rw [ihRight.mp hright]
              simp [value, hleft, hright, Bind.bind, Except.bind]
          | ok second =>
              rw [first_eq_none_of_ok (fun _ => ihRight) hright, Option.none_or]
              simp only [value, hleft, hright, Bind.bind, Except.bind]
              exact Kind.apply_eq_error_iff

end Expr

/-! ## Trees that were read from tokens -/

/-- A number by its kind whose text is not made of digits. -/
def Token.Misspelled (token : Token) : Prop :=
  token.kind = .number ∧
    (token.lexeme = "" ∨ ∃ c ∈ token.lexeme.toList, c.isDigit = false)

/-- Why a token among others is misspelled; an operator never is. -/
def Token.spellingFault? (token : Token) : Option ValueFault :=
  if token.kind = .number then token.fault? else none

namespace Token

theorem spellingFault?_eq_none_iff {token : Token} :
    token.spellingFault? = none ↔ ¬token.Misspelled := by
  by_cases hkind : token.kind = .number
  · by_cases hempty : token.lexeme = ""
    · simp [spellingFault?, fault?, Misspelled, hkind, hempty]
    · simp [spellingFault?, fault?, Misspelled, hkind, hempty]
  · simp [spellingFault?, Misspelled, hkind]

theorem Misspelled.spellingFault? {token : Token} (htoken : token.Misspelled) :
    token.spellingFault? = some
      (if token.lexeme = "" then .emptyLiteral else .notDecimal token.lexeme) := by
  rcases htoken with ⟨hkind, htext⟩
  by_cases hempty : token.lexeme = ""
  · simp [Token.spellingFault?, fault?, hkind, hempty]
  · have hother := htext.resolve_left hempty
    simp [Token.spellingFault?, fault?, hkind, hempty, hother]

end Token

namespace Expr

theorem faults_of_spells {expr : Expr} {tokens : List Token}
    (hkinds : expr.WellKinded) (hspells : expr.Spells tokens) :
    expr.faults = tokens.filterMap Token.spellingFault? := by
  induction expr generalizing tokens with
  | literal token =>
      rcases spells_literal.mp hspells with rfl
      have hkind : token.kind = .number := hkinds
      simp only [faults, Token.spellingFault?, hkind, if_true,
        List.filterMap_cons, List.filterMap_nil]
      cases token.fault? <;> rfl
  | binary operator left right ihLeft ihRight =>
      rcases hkinds with ⟨hoperator, hleftKinds, hrightKinds⟩
      obtain ⟨before, sign, after, rfl, rfl, hleft, hright⟩ :=
        spells_binary.mp hspells
      have hsign : sign.spellingFault? = none := by
        simp [Token.spellingFault?, hoperator]
      simp [faults, ihLeft hleftKinds hleft, ihRight hrightKinds hright,
        Kind.fault?, hoperator, hsign]

theorem value_eq_error_iff_of_ofTokens {expr : Expr} {tokens : List Token}
    {fault : ValueFault} (hread : ofTokens tokens = .ok expr) :
    expr.value = .error fault ↔
      tokens.findSome? Token.spellingFault? = some fault := by
  rcases ofTokens_eq_ok_iff.mp hread with ⟨hsum, hspells, _⟩
  rw [value_eq_error_iff, faults_of_spells (isSum_iff.mp hsum).1 hspells,
    List.head?_filterMap]

theorem exists_value_eq_error_iff_of_ofTokens {expr : Expr}
    {tokens : List Token} (hread : ofTokens tokens = .ok expr) :
    (∃ fault, expr.value = .error fault) ↔
      ∃ token ∈ tokens, token.Misspelled := by
  simp only [value_eq_error_iff_of_ofTokens hread]
  rw [← Option.isSome_iff_exists, ← Option.ne_none_iff_isSome, ne_eq,
    List.findSome?_eq_none_iff]
  simp [Token.spellingFault?_eq_none_iff]

theorem value_of_first_misspelled {expr : Expr} {before after : List Token}
    {token : Token} (hread : ofTokens (before ++ token :: after) = .ok expr)
    (hbefore : ∀ earlier ∈ before, ¬earlier.Misspelled)
    (htoken : token.Misspelled) :
    expr.value = .error
      (if token.lexeme = "" then .emptyLiteral else .notDecimal token.lexeme) := by
  have hnone : before.findSome? Token.spellingFault? = none := by
    rw [List.findSome?_eq_none_iff]
    intro earlier hearlier
    exact Token.spellingFault?_eq_none_iff.mpr (hbefore earlier hearlier)
  rw [value_eq_error_iff_of_ofTokens hread, List.findSome?_append, hnone,
    Option.none_or, List.findSome?_cons, htoken.spellingFault?]

/-- The two faults of the types, a leaf that is no number and a node that is
no operator, do not arise. -/
theorem value_error_cases_of_ofTokens {expr : Expr} {tokens : List Token}
    {fault : ValueFault} (hread : ofTokens tokens = .ok expr)
    (hvalue : expr.value = .error fault) :
    fault = .emptyLiteral ∨ ∃ lexeme, fault = .notDecimal lexeme := by
  rw [value_eq_error_iff_of_ofTokens hread] at hvalue
  obtain ⟨token, _, hfault⟩ := List.exists_of_findSome?_eq_some hvalue
  have htoken : token.Misspelled := by
    by_contra hspelled
    simp [Token.spellingFault?_eq_none_iff.mpr hspelled] at hfault
  rw [htoken.spellingFault?, Option.some.injEq] at hfault
  by_cases hempty : token.lexeme = ""
  · rw [if_pos hempty] at hfault
    exact .inl hfault.symm
  · rw [if_neg hempty] at hfault
    exact .inr ⟨token.lexeme, hfault.symm⟩

end Expr

end LineCalculator
