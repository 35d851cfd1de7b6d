import LineCalculator.Proofs.Expr.Render
import LineCalculator.Proofs.Line.Fault
import Mathlib.Tactic

/-!
# What the tree of a line tells about the line

A tree keeps the numbers of its line with their digits and the operators by
their kinds.  An operator has one spelling, so nothing but the blanks is lost
on the way from a line to its tree, and nothing on the way to the text of the
tree.
-/

namespace LineCalculator

theorem Token.WellSpelled.eq_of_kind_eq {first second : Token}
    (hfirst : first.WellSpelled) (hsecond : second.WellSpelled)
    (hkind : first.kind = second.kind) (hoperator : first.kind ≠ .number) :
    first = second := by
  obtain ⟨kind, lexeme⟩ := first
  obtain ⟨otherKind, otherLexeme⟩ := second
  obtain rfl : kind = otherKind := hkind
  cases kind with
  | number => contradiction
  | plus => rw [show lexeme = "+" from hfirst, show otherLexeme = "+" from hsecond]
  | minus => rw [show lexeme = "-" from hfirst, show otherLexeme = "-" from hsecond]
  | times => rw [show lexeme = "*" from hfirst, show otherLexeme = "*" from hsecond]

theorem Layout.wellSpelled_of_mem (layout : Layout) {token : Token}
    (hmem : token ∈ layout.tokens) : token.WellSpelled := by
  obtain ⟨piece, _, rfl⟩ := List.mem_map.mp hmem
  exact piece.spelled

theorem Expr.Spells.eq_of_wellSpelled {expr : Expr} {tokens others : List Token}
    (hkinds : expr.WellKinded) (hspells : expr.Spells tokens)
    (hothers : expr.Spells others)
    (htokens : ∀ token ∈ tokens, token.WellSpelled)
    (hotherTokens : ∀ token ∈ others, token.WellSpelled) : tokens = others := by
  induction expr generalizing tokens others with
  | literal token =>
      rw [spells_literal.mp hspells, spells_literal.mp hothers]
  | binary operator left right ihLeft ihRight =>
      obtain ⟨hoperator, hleftKinds, hrightKinds⟩ := hkinds
      obtain ⟨before, sign, after, rfl, hsign, hleft, hright⟩ :=
        spells_binary.mp hspells
      obtain ⟨otherBefore, otherSign, otherAfter, rfl, hotherSign, hotherLeft,
        hotherRight⟩ := spells_binary.mp hothers
      rw [List.forall_mem_append, List.forall_mem_cons] at htokens hotherTokens
      obtain ⟨hbefore, hspelled, hafter⟩ := htokens
      obtain ⟨hotherBefore, hotherSpelled, hotherAfter⟩ := hotherTokens
      have hsigns : sign = otherSign :=
        hspelled.eq_of_kind_eq hotherSpelled (hsign.trans hotherSign.symm)
          (by rwa [hsign])
      rw [ihLeft hleftKinds hleft hotherLeft hbefore hotherBefore, hsigns,
        ihRight hrightKinds hright hotherRight hafter hotherAfter]

namespace Line

variable {first second : String} {firstTree secondTree : Expr}

theorem tokens_eq_of_expr_eq {tree : Expr}
    (hfirst : (Line.expr first).outcome = .ok tree)
    (hsecond : (Line.expr second).outcome = .ok tree) :
    (Line.tokens first).outcome = (Line.tokens second).outcome := by
  obtain ⟨tokens, hscan, hread⟩ := expr_outcome_eq_ok_iff.mp hfirst
  obtain ⟨others, hotherScan, hotherRead⟩ := expr_outcome_eq_ok_iff.mp hsecond
  rw [hscan, hotherScan]
  obtain ⟨layout, _, rfl⟩ := tokens_outcome_eq_ok_iff.mp hscan
  obtain ⟨otherLayout, _, rfl⟩ := tokens_outcome_eq_ok_iff.mp hotherScan
  obtain ⟨hsum, hspells, _⟩ := Expr.ofTokens_eq_ok_iff.mp hread
  obtain ⟨_, hotherSpells, _⟩ := Expr.ofTokens_eq_ok_iff.mp hotherRead
  rw [Expr.Spells.eq_of_wellSpelled (Expr.isSum_iff.mp hsum).1 hspells
    hotherSpells (fun _ => layout.wellSpelled_of_mem)
    (fun _ => otherLayout.wellSpelled_of_mem)]

theorem expr_eq_of_tokens_eq
    (hfirst : (Line.expr first).outcome = .ok firstTree)
    (hsecond : (Line.expr second).outcome = .ok secondTree)
    (htokens : (Line.tokens first).outcome = (Line.tokens second).outcome) :
    firstTree = secondTree := by
  obtain ⟨tokens, hscan, hread⟩ := expr_outcome_eq_ok_iff.mp hfirst
  obtain ⟨others, hotherScan, hotherRead⟩ := expr_outcome_eq_ok_iff.mp hsecond
  rw [hscan, hotherScan, Except.ok.injEq] at htokens
  subst htokens
  rw [hread, Except.ok.injEq] at hotherRead
  exact hotherRead

theorem response_outcome_of_expr {source : String} {tree : Expr}
    (showTree : Bool) (htree : (Line.expr source).outcome = .ok tree) :
    (Line.response showTree source).outcome = .ok
      ((if showTree then tree.render ++ "\n" else "") ++
        decimal (Int64.ofInt tree.integer)) :=
  response_outcome_eq_ok_iff.mpr
    ⟨tree, _, htree, (evaluable_of_expr htree).value, rfl⟩

theorem render_eq_of_response_eq
    (hfirst : (Line.expr first).outcome = .ok firstTree)
    (hsecond : (Line.expr second).outcome = .ok secondTree)
    (hresponse : (Line.response true first).outcome =
      (Line.response true second).outcome) :
    firstTree.render = secondTree.render := by
  rw [response_outcome_of_expr true hfirst, response_outcome_of_expr true hsecond,
    Except.ok.injEq] at hresponse
  have hchars := congrArg String.toList hresponse
  simp only [if_true, String.toList_append, List.append_assoc] at hchars
  exact String.toList_inj.mp (append_separator_inj
    (evaluable_of_expr hfirst).numeralLeaves.newline_not_mem_render
    (evaluable_of_expr hsecond).numeralLeaves.newline_not_mem_render hchars).1

end Line

/-- The text of a tree determines the tree, and with it everything about the
line it was read from except the blanks. -/
theorem Line.expr_identified_by_render :
    Set.InjOn Expr.render {tree : Expr | tree.NumeralLeaves} ∧
      ∀ (first second : String) (firstTree secondTree : Expr),
        (Line.expr first).outcome = .ok firstTree →
        (Line.expr second).outcome = .ok secondTree →
        [firstTree.render = secondTree.render,
          firstTree = secondTree,
          (Line.tokens first).outcome = (Line.tokens second).outcome,
          (Line.response true first).outcome =
            (Line.response true second).outcome].TFAE := by
  refine ⟨?_, ?_⟩
  · intro firstTree hfirst secondTree hsecond htext
    exact hfirst.eq_of_render_eq hsecond htext
  · intro first second firstTree secondTree hfirst hsecond
    tfae_have 1 → 2 := (evaluable_of_expr hfirst).numeralLeaves.eq_of_render_eq
      (evaluable_of_expr hsecond).numeralLeaves
    tfae_have 2 → 3 := by
      rintro rfl
      exact tokens_eq_of_expr_eq hfirst hsecond
    tfae_have 3 → 4 := by
      intro htokens
      rw [response_outcome_of_expr true hfirst,
        response_outcome_of_expr true hsecond,
        expr_eq_of_tokens_eq hfirst hsecond htokens]
    tfae_have 4 → 1 := render_eq_of_response_eq hfirst hsecond
    tfae_finish

theorem Line.expr_of_sum_of_product {source first second third : String}
    (hscan : (Line.tokens source).outcome = .ok [⟨.number, first⟩, ⟨.plus, "+"⟩,
      ⟨.number, second⟩, ⟨.times, "*"⟩, ⟨.number, third⟩]) :
    (Line.expr source).outcome = .ok (.binary .plus (.literal ⟨.number, first⟩)
      (.binary .times (.literal ⟨.number, second⟩)
        (.literal ⟨.number, third⟩))) := by
  refine expr_outcome_eq_ok_iff.mpr ⟨_, hscan, Expr.ofTokens_eq_ok_iff.mpr
    ⟨.join rfl (.product (.number rfl)) (.times (.number rfl) rfl), ?_, ?_⟩⟩
  · simp [Expr.Spells, Expr.inOrder, Expr.Entry.Matches]
  · simp [Expr.operatorCount, operatorLimit]

/-- Blanks are lost on the way to a tree; which operator stands where is not. -/
theorem Line.expr_identified_by_render_spaced :
    (Line.response true "1+2*3").outcome =
        (Line.response true " 1 + 2\u00a0* 3").outcome ∧
      (Line.response true "1+2*3").outcome ≠
        (Line.response true "1*2+3").outcome := by
  have hproduct : (Line.expr "1*2+3").outcome = .ok (.binary .plus
      (.binary .times (.literal ⟨.number, "1"⟩) (.literal ⟨.number, "2"⟩))
      (.literal ⟨.number, "3"⟩)) := by
    refine expr_outcome_eq_ok_iff.mpr ⟨[⟨.number, "1"⟩, ⟨.times, "*"⟩,
      ⟨.number, "2"⟩, ⟨.plus, "+"⟩, ⟨.number, "3"⟩], by cbv,
      Expr.ofTokens_eq_ok_iff.mpr
        ⟨.join rfl (.product (.times (.number rfl) rfl)) (.number rfl), ?_,
          by decide⟩⟩
    simp [Expr.Spells, Expr.inOrder, Expr.Entry.Matches]
  have hblank := Line.expr_identified_by_render.2 "1+2*3" " 1 + 2\u00a0* 3" _ _
    (expr_of_sum_of_product (by cbv)) (expr_of_sum_of_product (by cbv))
  have hshape := Line.expr_identified_by_render.2 "1+2*3" "1*2+3" _ _
    (expr_of_sum_of_product (by cbv)) hproduct
  refine ⟨(hblank.out 1 3).mp rfl, ?_⟩
  intro hresponse
  have htrees := (hshape.out 3 1).mp hresponse
  simp at htrees

end LineCalculator
