import LineCalculator.Proofs.Expr.Fault
import Mathlib.Data.Int.ModEq
import Mathlib.Tactic

/-!
# Arithmetic of expressions

A tree has a value unless something in it is at fault, and then the value is
that of exact arithmetic up to a multiple of the size of a word.  Nothing is
asked of the values below the root: they may leave the range of a word at any
digit and at any operator.
-/

namespace LineCalculator

/-! ## Trees with a value -/

namespace Expr

theorem faults_eq_nil_iff {expr : Expr} :
    expr.faults = [] ↔ expr.Evaluable := by
  induction expr with
  | literal token => simp [faults, Evaluable, Token.fault?_eq_none_iff]
  | binary operator left right ihLeft ihRight =>
      simp only [faults, Evaluable, List.append_eq_nil_iff, ihLeft, ihRight,
        Option.toList_eq_nil_iff, Kind.fault?_eq_none_iff]
      exact and_comm

theorem exists_value_eq_ok_iff {expr : Expr} :
    (∃ value, expr.value = .ok value) ↔ expr.Evaluable := by
  constructor
  · intro hok
    obtain ⟨value, hvalue⟩ := hok
    rw [← faults_eq_nil_iff, ← List.head?_eq_none_iff]
    exact first_eq_none_of_ok (fun _ => value_eq_error_iff) hvalue
  · intro hexpr
    exact ⟨Int64.ofInt expr.integer, hexpr.value⟩

theorem evaluable_iff_inOrder {expr : Expr} :
    expr.Evaluable ↔
      (∀ token, .leaf token ∈ expr.inOrder → token.IsNumeral) ∧
        .node .number ∉ expr.inOrder := by
  induction expr with
  | literal token => simp [Evaluable, inOrder]
  | binary operator left right ihLeft ihRight =>
      simp only [Evaluable, inOrder, ihLeft, ihRight, List.mem_append,
        List.mem_cons, reduceCtorEq, false_or, or_imp, forall_and, not_or,
        Entry.node.injEq, ne_eq, @eq_comm _ Kind.number]
      tauto

end Expr

/-! ## Words and integers -/

/-- A word is the one integer of its range that is congruent to what it was
reduced from. -/
theorem eq_toInt_ofInt_iff {exact number : Int} :
    number = (Int64.ofInt exact).toInt ↔
      -2 ^ 63 ≤ number ∧ number < 2 ^ 63 ∧ number ≡ exact [ZMOD 2 ^ 64] := by
  have hsize : 0 < Int64.size := by decide
  rw [eq_comm, Int64.toInt_ofInt, Int.bmod_eq_iff hsize, Int.modEq_comm,
    Int.modEq_iff_dvd]
  simp [Int64.size]

namespace Expr

/-- A tree has a value if its leaves are numbers in digits and its nodes are
operators.  The value is then the integer of a word's range that is congruent
to the exact one, and there is only one such integer. -/
theorem value_exact_modulo_word (expr : Expr) :
    ((∃ value, expr.value = .ok value) ↔
        (∀ token, .leaf token ∈ expr.inOrder →
          token.kind = .number ∧ token.lexeme ≠ "" ∧
            ∀ c ∈ token.lexeme.toList, c.isDigit = true) ∧
          .node .number ∉ expr.inOrder) ∧
      ∀ value, expr.value = .ok value → ∀ number : Int,
        number = value.toInt ↔
          -2 ^ 63 ≤ number ∧ number < 2 ^ 63 ∧
            number ≡ expr.integer [ZMOD 2 ^ 64] := by
  constructor
  · rw [exists_value_eq_ok_iff, evaluable_iff_inOrder]
    simp [Token.IsNumeral]
  · intro value hvalue number
    have hexpr : expr.Evaluable := exists_value_eq_ok_iff.mp ⟨value, hvalue⟩
    rw [hexpr.value, Except.ok.injEq] at hvalue
    rw [← hvalue]
    exact eq_toInt_ofInt_iff

/-- Two of the numbers and the exact results of both operators lie outside the
range of a word. -/
theorem value_exact_modulo_word_outside :
    (binary .minus (literal ⟨.number, "9223372036854775809"⟩)
        (binary .times (literal ⟨.number, "0018446744073709551618"⟩)
          (literal ⟨.number, "3"⟩))).value = .ok 9223372036854775803 ∧
      (9223372036854775803 : Int) ≡
        9223372036854775809 - 18446744073709551618 * 3 [ZMOD 2 ^ 64] := by
  have hvalue : (binary .minus (literal ⟨.number, "9223372036854775809"⟩)
      (binary .times (literal ⟨.number, "0018446744073709551618"⟩)
        (literal ⟨.number, "3"⟩))).value = .ok 9223372036854775803 := by
    decide
  have hexact :=
    ((value_exact_modulo_word _).2 _ hvalue 9223372036854775803).mp (by decide)
  exact ⟨hvalue, hexact.2.2⟩

end Expr

end LineCalculator
