import LineCalculator.Proofs.Expr.Integer
import LineCalculator.Proofs.Fault.Message
import LineCalculator.Proofs.Token.Layout
import Mathlib.Tactic

/-!
# Reading a tree off its text

The text of a tree with numerals at its leaves is read from left to right
without a choice: a digit starts a leaf, a parenthesis starts a node, and a
leaf ends where its digits end.  So the text determines the tree, whatever
follows it.
-/

namespace LineCalculator

namespace Expr

/-- Every leaf is a number in digits; the nodes may hold any kind. -/
def NumeralLeaves : Expr → Prop
  | .literal token => token.IsNumeral
  | .binary _ left right => left.NumeralLeaves ∧ right.NumeralLeaves

theorem Evaluable.numeralLeaves {expr : Expr} (hexpr : expr.Evaluable) :
    expr.NumeralLeaves := by
  induction expr with
  | literal token => exact hexpr
  | binary operator left right ihLeft ihRight =>
      exact ⟨ihLeft hexpr.2.1, ihRight hexpr.2.2⟩

theorem render_binary_toList (operator : Kind) (left right : Expr) :
    (binary operator left right).render.toList =
      '(' :: (operator.name.toList ++ ' ' :: (left.render.toList ++ ' ' ::
        (right.render.toList ++ [')']))) := by
  simp [render]

theorem blank_not_mem_name (kind : Kind) : ' ' ∉ kind.name.toList := by
  cases kind <;> decide

theorem NumeralLeaves.head?_render {expr : Expr} (hexpr : expr.NumeralLeaves) :
    ∃ c, expr.render.toList.head? = some c ∧ (c = '(' ∨ c.isDigit = true) := by
  cases expr with
  | literal token =>
      obtain ⟨_, hne, hdigits⟩ := hexpr
      obtain ⟨c, text, htext⟩ := List.exists_cons_of_ne_nil hne
      refine ⟨c, by simp [render, htext], .inr (hdigits c ?_)⟩
      simp [htext]
  | binary operator left right =>
      exact ⟨'(', by simp [render_binary_toList], .inl rfl⟩

theorem render_literal_ne_binary {token : Token} {operator : Kind}
    {left right : Expr} {rest others : List Char} (htoken : token.IsNumeral) :
    (literal token).render.toList ++ rest ≠
      (binary operator left right).render.toList ++ others := by
  intro htext
  obtain ⟨_, hne, hdigits⟩ := htoken
  obtain ⟨c, digits, hlexeme⟩ := List.exists_cons_of_ne_nil hne
  have hdigit : c.isDigit = true := hdigits c (by simp [hlexeme])
  rw [render_binary_toList, render, hlexeme, List.cons_append,
    List.cons_append, List.cons.injEq] at htext
  rw [htext.1] at hdigit
  exact absurd hdigit (by decide)

theorem NumeralLeaves.render_append_inj {first second : Expr}
    {rest others : List Char} (hfirst : first.NumeralLeaves)
    (hsecond : second.NumeralLeaves)
    (hrest : ∀ c ∈ rest.head?, c.isDigit = false)
    (hothers : ∀ c ∈ others.head?, c.isDigit = false)
    (htext : first.render.toList ++ rest = second.render.toList ++ others) :
    first = second ∧ rest = others := by
  -- The texts that follow vary: behind an operand they are the rest of its node.
  induction first generalizing second rest others with
  | literal token =>
      cases second with
      | literal other =>
          obtain ⟨hlexeme, htail⟩ :=
            run_append_inj hfirst.2.2 hsecond.2.2 hrest hothers htext
          obtain ⟨kind, lexeme⟩ := token
          obtain ⟨otherKind, otherLexeme⟩ := other
          obtain rfl : kind = .number := hfirst.1
          obtain rfl : otherKind = .number := hsecond.1
          obtain rfl : lexeme = otherLexeme := String.toList_inj.mp hlexeme
          exact ⟨rfl, htail⟩
      | binary operator left right =>
          exact absurd htext (render_literal_ne_binary hfirst)
  | binary operator left right ihLeft ihRight =>
      cases second with
      | literal other =>
          exact absurd htext.symm (render_literal_ne_binary hsecond)
      | binary otherOperator otherLeft otherRight =>
          obtain ⟨hleft, hright⟩ := hfirst
          obtain ⟨hotherLeft, hotherRight⟩ := hsecond
          simp only [render_binary_toList, List.cons_append, List.append_assoc,
            List.cons.injEq, true_and, List.nil_append] at htext
          obtain ⟨hname, hoperands⟩ := append_separator_inj
            (blank_not_mem_name operator) (blank_not_mem_name otherOperator) htext
          obtain ⟨rfl, hafter⟩ := ihLeft hleft hotherLeft (by simp +decide)
            (by simp +decide) hoperands
          obtain ⟨rfl, hclose⟩ := ihRight hright hotherRight (by simp +decide)
            (by simp +decide) (List.cons.inj hafter).2
          obtain rfl := Kind.name_injective (String.toList_inj.mp hname)
          exact ⟨rfl, (List.cons.inj hclose).2⟩

theorem NumeralLeaves.eq_of_render_eq {first second : Expr}
    (hfirst : first.NumeralLeaves) (hsecond : second.NumeralLeaves)
    (htext : first.render = second.render) : first = second := by
  have hchars : first.render.toList ++ [] = second.render.toList ++ [] := by
    rw [htext]
  exact (hfirst.render_append_inj hsecond (by simp) (by simp) hchars).1

theorem NumeralLeaves.newline_not_mem_render {expr : Expr}
    (hexpr : expr.NumeralLeaves) : '\n' ∉ expr.render.toList := by
  induction expr with
  | literal token =>
      intro hmem
      exact absurd (hexpr.2.2 '\n' hmem) (by decide)
  | binary operator left right ihLeft ihRight =>
      have hname : '\n' ∉ operator.name.toList := by
        cases operator <;> decide
      simp [render_binary_toList, hname, ihLeft hexpr.1, ihRight hexpr.2]

end Expr
end LineCalculator
