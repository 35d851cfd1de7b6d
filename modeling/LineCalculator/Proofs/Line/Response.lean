import LineCalculator.Proofs.Line.ReadBack
import Mathlib.Tactic

/-!
# A response with and without its tree

Asking for the tree changes nothing about whether a line has a response, and
nothing about the value in it.  The tree is put on a line of its own above the
value; neither of the two holds a newline, so the parts can be told apart.
-/

namespace LineCalculator

/-- The decimal text of an integer: digits with no zero in front of them, and a
sign if the integer is negative. -/
def IsDecimal (text : String) (value : Int) : Prop :=
  ∃ digits : List Char, digits ≠ [] ∧ (∀ c ∈ digits, c.isDigit = true) ∧
    (digits.head? = some '0' → digits = ['0']) ∧
    Nat.ofDigitChars 10 digits 0 = value.natAbs ∧
    text.toList = if value < 0 then '-' :: digits else digits

theorem head?_toDigits_ne_zero {number : Nat} (hpos : 0 < number) :
    (Nat.toDigits 10 number).head? ≠ some '0' := by
  induction number using Nat.strong_induction_on with
  | _ number ih =>
      rcases Nat.lt_or_ge number 10 with hlt | hge
      · rw [Nat.toDigits_of_lt_base hlt, List.head?_cons, ne_eq,
          Option.some.injEq, Nat.digitChar_eq_zero]
        omega
      · rw [Nat.toDigits_of_base_le (by decide) hge,
          List.head?_append_of_ne_nil _ Nat.toDigits_ne_nil]
        exact ih (number / 10) (by omega) (by omega)

theorem toDigits_eq_zero_of_head? {number : Nat}
    (hhead : (Nat.toDigits 10 number).head? = some '0') :
    Nat.toDigits 10 number = ['0'] := by
  rcases Nat.eq_zero_or_pos number with hzero | hpos
  · rw [hzero, Nat.toDigits_zero]
  · exact absurd hhead (head?_toDigits_ne_zero hpos)

theorem isDecimal_decimal (value : Int64) :
    IsDecimal (decimal value) value.toInt := by
  have hdigits : ∀ number c, c ∈ Nat.toDigits 10 number → c.isDigit = true := by
    intro number c hc
    exact Nat.isDigit_of_mem_toDigits (by decide) (by decide) hc
  rcases decimal_cases value with
    ⟨number, hvalue, htext⟩ | ⟨number, hpos, hvalue, htext⟩
  · refine ⟨Nat.toDigits 10 number, Nat.toDigits_ne_nil, hdigits number,
      toDigits_eq_zero_of_head?, ?_, ?_⟩
    · rw [Nat.ofDigitChars_ten_toDigits, hvalue, Int.natAbs_natCast]
    · rw [htext, Nat.toList_repr, hvalue, if_neg (by omega)]
  · refine ⟨Nat.toDigits 10 number, Nat.toDigits_ne_nil, hdigits number,
      toDigits_eq_zero_of_head?, ?_, ?_⟩
    · rw [Nat.ofDigitChars_ten_toDigits, hvalue, Int.natAbs_neg,
        Int.natAbs_natCast]
    · rw [htext, hvalue, if_pos (by omega), String.toList_append,
        Nat.toList_repr]
      rfl

/-- Both responses to a line fail with the same fault, or both succeed.  Then
the one without the tree is the decimal text of the line's value, and the other
has the text of the tree in front of it, with the only newline in between. -/
theorem Line.responses_agree (source : String) :
    (∃ fault, (Line.response true source).outcome = .error fault ∧
        (Line.response false source).outcome = .error fault) ∨
      ∃ tokens tree value plain full,
        (Line.tokens source).outcome = .ok tokens ∧
        Expr.ofTokens tokens = .ok tree ∧
        (Line.value source).outcome = .ok value ∧
        (Line.response false source).outcome = .ok plain ∧
        (Line.response true source).outcome = .ok full ∧
        IsDecimal plain value.toInt ∧ '\n' ∉ plain.toList ∧
        full = tree.render ++ "\n" ++ plain ∧ full.toList.count '\n' = 1 := by
  cases hexpr : (Line.expr source).outcome with
  | error fault =>
      exact .inl ⟨fault, response_outcome_eq_error_iff.mpr hexpr,
        response_outcome_eq_error_iff.mpr hexpr⟩
  | ok tree =>
      rcases expr_outcome_eq_ok_iff.mp hexpr with ⟨tokens, hscan, hread⟩
      have hvalue := (evaluable_of_expr hexpr).value
      have hline := value_outcome_eq_ok_iff.mpr ⟨tokens, tree, hscan, hread, hvalue⟩
      have hplain := response_false_eq_ok_iff.mpr ⟨_, hline, rfl⟩
      have hfull := response_outcome_of_expr true hexpr
      have hcount := count_newline_reply true source
      rw [reply, hfull] at hcount
      exact .inr ⟨tokens, tree, _, _, _, hscan, hread, hline, hplain, hfull,
        isDecimal_decimal _, newline_not_mem_decimal _, rfl, hcount⟩

end LineCalculator
