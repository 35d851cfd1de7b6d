import LineCalculator.Proofs.Expr.Integer
import LineCalculator.Proofs.Expr.Outcome
import LineCalculator.Proofs.Token.Layout
import Mathlib.Tactic

/-!
# The value of a line

A line has a value if it is laid out from numbers with one operator between
any two of them, and from no more operators than the limit allows.  The value
is the sum of the line's products, computed in the integers and reduced to a
word at the end.
-/

namespace LineCalculator

theorem Traced.bind_outcome_eq_ok_iff {α β : Type} {first : Traced α}
    {next : α → Traced β} {result : β} :
    (first >>= next).outcome = .ok result ↔
      ∃ found, first.outcome = .ok found ∧ (next found).outcome = .ok result := by
  cases hfirst : first.outcome with
  | error fault => simp [Traced.bind_of_error next hfirst]
  | ok found => simp [Traced.bind_of_ok next hfirst]

theorem Except.mapError_eq_ok_iff {ε δ α : Type} {f : ε → δ}
    {outcome : Except ε α} {result : α} :
    outcome.mapError f = .ok result ↔ outcome = .ok result := by
  cases outcome <;> simp [Except.mapError]

namespace Line

theorem expr_outcome_eq_ok_iff {source : String} {tree : Expr} :
    (Line.expr source).outcome = .ok tree ↔
      ∃ tokens, (Line.tokens source).outcome = .ok tokens ∧
        Expr.ofTokens tokens = .ok tree := by
  simp only [Line.expr, Traced.bind_outcome_eq_ok_iff, Traced.note,
    Traced.silent, Except.mapError_eq_ok_iff, Traced.pure_outcome]
  simp

theorem value_outcome_eq_ok_iff {source : String} {value : Int64} :
    (Line.value source).outcome = .ok value ↔
      ∃ tokens tree, (Line.tokens source).outcome = .ok tokens ∧
        Expr.ofTokens tokens = .ok tree ∧ tree.value = .ok value := by
  simp only [Line.value, Traced.bind_outcome_eq_ok_iff, Traced.silent,
    Except.mapError_eq_ok_iff, expr_outcome_eq_ok_iff]
  constructor
  · rintro ⟨tree, ⟨tokens, hscan, htree⟩, hvalue⟩
    exact ⟨tokens, tree, hscan, htree, hvalue⟩
  · rintro ⟨tokens, tree, hscan, htree, hvalue⟩
    exact ⟨tree, ⟨tokens, hscan, htree⟩, hvalue⟩

end Line

theorem Layout.isNumeral_of_mem (layout : Layout) {token : Token}
    (hmem : token ∈ layout.tokens) (hkind : token.kind = .number) :
    token.IsNumeral := by
  rcases List.mem_map.mp hmem with ⟨piece, _, rfl⟩
  have hspelled := piece.spelled
  simp only [Token.WellSpelled, hkind] at hspelled
  exact ⟨hkind, hspelled⟩

theorem Layout.value_eq_ok_iff (layout : Layout) {tree : Expr} {value : Int64}
    (htree : Expr.ofTokens layout.tokens = .ok tree) :
    tree.value = .ok value ↔
      value.toInt = (signedSum layout.tokens).bmod (2 ^ 64) := by
  rcases Expr.ofTokens_eq_ok_iff.mp htree with ⟨hsum, hspells, _⟩
  have hevaluable := Expr.evaluable_of_spells (Expr.isSum_iff.mp hsum).1 hspells
    fun token => layout.isNumeral_of_mem
  rw [hevaluable.value, hsum.integer_eq_signedSum hspells, Except.ok.injEq,
    Int64.ofInt_eq_iff_bmod_eq_toInt, eq_comm]

/-- A line is worth `value` exactly if numbers and at most 1024 operators
alternate in it, with blanks around them, and `value` is the sum of its
products modulo the size of a word. -/
theorem Line.value_outcome_eq_ok_iff_signedSum (source : String)
    (value : Int64) :
    (Line.value source).outcome = .ok value ↔
      ∃ count ≤ 1024, ∃ layout : Layout, layout.text = source.toList ∧
        layout.tokens.length = 2 * count + 1 ∧ Alternates layout.tokens ∧
        value.toInt = (signedSum layout.tokens).bmod (2 ^ 64) := by
  rw [Line.value_outcome_eq_ok_iff]
  constructor
  · rintro ⟨tokens, tree, hscan, htree, hvalue⟩
    rcases Line.tokens_outcome_eq_ok_iff.mp hscan with ⟨layout, htext, rfl⟩
    obtain ⟨count, hlimit, hcount, halternates⟩ :=
      Expr.exists_ofTokens_eq_ok_iff_alternates.mp ⟨tree, htree⟩
    exact ⟨count, hlimit, layout, htext, hcount, halternates,
      (layout.value_eq_ok_iff htree).mp hvalue⟩
  · rintro ⟨count, hlimit, layout, htext, hcount, halternates, hvalue⟩
    have hscan := Line.tokens_outcome_eq_ok_iff.mpr ⟨layout, htext, rfl⟩
    obtain ⟨tree, htree⟩ := Expr.exists_ofTokens_eq_ok_iff_alternates.mpr
      ⟨count, hlimit, hcount, halternates⟩
    exact ⟨layout.tokens, tree, hscan, htree,
      (layout.value_eq_ok_iff htree).mpr hvalue⟩

end LineCalculator
