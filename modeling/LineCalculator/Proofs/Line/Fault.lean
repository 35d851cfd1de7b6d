import LineCalculator.Proofs.Expr.Fault
import LineCalculator.Proofs.Fault.Message
import LineCalculator.Proofs.Line.Value
import Mathlib.Tactic

/-!
# Which fault a line has

A line is scanned as a whole before its tokens are read, so a foreign
character anywhere hides every fault of the grammar.  Evaluation adds no fault
of its own: a scan spells numbers with digits, and reading puts numbers at the
leaves and operators at the nodes.
-/

namespace LineCalculator

theorem Traced.bind_outcome_eq_error_iff {α β : Type} {first : Traced α}
    {next : α → Traced β} {fault : Fault} :
    (first >>= next).outcome = .error fault ↔
      first.outcome = .error fault ∨
        ∃ found, first.outcome = .ok found ∧
          (next found).outcome = .error fault := by
  cases hfirst : first.outcome with
  | error cause => simp [Traced.bind_of_error next hfirst]
  | ok found => simp [Traced.bind_of_ok next hfirst]

theorem Except.mapError_eq_error_iff {ε δ α : Type} {f : ε → δ}
    {outcome : Except ε α} {fault : δ} :
    outcome.mapError f = .error fault ↔
      ∃ cause, outcome = .error cause ∧ f cause = fault := by
  cases outcome <;> simp [Except.mapError]

namespace Line

theorem expr_outcome_eq_error_iff {source : String} {fault : Fault} :
    (Line.expr source).outcome = .error fault ↔
      (Line.tokens source).outcome = .error fault ∨
        ∃ tokens cause, (Line.tokens source).outcome = .ok tokens ∧
          Expr.ofTokens tokens = .error cause ∧ fault = .grammar cause := by
  simp only [Line.expr, Traced.bind_outcome_eq_error_iff, Traced.note,
    Traced.silent, Except.mapError_eq_error_iff, Traced.pure_outcome]
  simp [eq_comm]

theorem evaluable_of_expr {source : String} {tree : Expr}
    (htree : (Line.expr source).outcome = .ok tree) : tree.Evaluable := by
  obtain ⟨tokens, hscan, hread⟩ := Line.expr_outcome_eq_ok_iff.mp htree
  obtain ⟨layout, _, rfl⟩ := Line.tokens_outcome_eq_ok_iff.mp hscan
  obtain ⟨hsum, hspells, _⟩ := Expr.ofTokens_eq_ok_iff.mp hread
  apply Expr.evaluable_of_spells (Expr.isSum_iff.mp hsum).1 hspells
  intro token hmem hkind
  exact layout.isNumeral_of_mem hmem hkind

theorem value_ne_error_of_expr {source : String} {tree : Expr}
    (htree : (Line.expr source).outcome = .ok tree) (cause : ValueFault) :
    tree.value ≠ .error cause := by
  rw [(evaluable_of_expr htree).value]
  simp

theorem value_outcome_eq_error_iff {source : String} {fault : Fault} :
    (Line.value source).outcome = .error fault ↔
      (Line.expr source).outcome = .error fault := by
  rw [Line.value, Traced.bind_outcome_eq_error_iff, or_iff_left_iff_imp]
  rintro ⟨tree, htree, hvalue⟩
  obtain ⟨cause, hcause, _⟩ := Except.mapError_eq_error_iff.mp hvalue
  exact absurd hcause (value_ne_error_of_expr htree cause)

theorem response_outcome_eq_ok_iff {showTree : Bool} {source text : String} :
    (Line.response showTree source).outcome = .ok text ↔
      ∃ tree value, (Line.expr source).outcome = .ok tree ∧
        tree.value = .ok value ∧
        text = (if showTree then tree.render ++ "\n" else "") ++ decimal value := by
  cases showTree with
  | true =>
      simp only [Line.response, if_true, Traced.bind_outcome_eq_ok_iff,
        Traced.silent, Except.mapError_eq_ok_iff, Traced.pure_outcome]
      simp [eq_comm]
  | false =>
      simp only [Line.response, Line.value, Bool.false_eq_true, if_false,
        Traced.bind_outcome_eq_ok_iff, Traced.silent,
        Except.mapError_eq_ok_iff, Traced.pure_outcome, String.empty_append]
      constructor
      · rintro ⟨value, ⟨tree, htree, hvalue⟩, htext⟩
        exact ⟨tree, value, htree, hvalue, (Except.ok.inj htext).symm⟩
      · rintro ⟨tree, value, htree, hvalue, rfl⟩
        exact ⟨value, ⟨tree, htree, hvalue⟩, rfl⟩

theorem response_outcome_eq_error_iff {showTree : Bool} {source : String}
    {fault : Fault} :
    (Line.response showTree source).outcome = .error fault ↔
      (Line.expr source).outcome = .error fault := by
  cases showTree with
  | true =>
      rw [← value_outcome_eq_error_iff]
      simp only [Line.response, Line.value, if_true,
        Traced.bind_outcome_eq_error_iff, Traced.silent, Traced.pure_outcome]
      simp
  | false =>
      rw [← value_outcome_eq_error_iff]
      simp only [Line.response, Bool.false_eq_true, if_false,
        Traced.bind_outcome_eq_error_iff, Traced.pure_outcome]
      simp

theorem expr_outcome_eq_foreign_iff {source : String} :
    (∃ c, (Line.expr source).outcome = .error (.foreign c)) ↔
      ∃ c ∈ source.toList, isForeign c = true := by
  simp only [expr_outcome_eq_error_iff, tokens_outcome_eq_error_iff,
    reduceCtorEq, and_false, exists_false, or_false, Fault.foreign.injEq,
    exists_eq_left']
  rw [← Option.isSome_iff_exists, List.find?_isSome]

theorem expr_outcome_of_clean {source : String}
    (hclean : ∀ c ∈ source.toList, isForeign c = false) :
    ∃ tokens, (Line.tokens source).outcome = .ok tokens ∧
      ∀ fault, (Line.expr source).outcome = .error fault ↔
        ∃ cause, Expr.ofTokens tokens = .error cause ∧ fault = .grammar cause := by
  cases hscan : (Line.tokens source).outcome with
  | error fault =>
      obtain ⟨c, _, hfound⟩ := tokens_outcome_eq_error_iff.mp hscan
      have hforeign := List.find?_some hfound
      simp [hclean c (List.mem_of_find?_eq_some hfound)] at hforeign
  | ok tokens =>
      refine ⟨tokens, rfl, ?_⟩
      intro fault
      simp [expr_outcome_eq_error_iff, hscan]

end Line

/-- A tree that was read from tokens fails at the first number that is not
spelled with digits, and in no other way.  A line has no such number, so it
fails at its first foreign character or, if it has none, as its tokens do. -/
theorem Line.faults_of_stages :
    (∀ tokens tree, Expr.ofTokens tokens = .ok tree →
      ((∃ fault, tree.value = .error fault) ↔
          ∃ token ∈ tokens, token.Misspelled) ∧
        (∀ before token after, tokens = before ++ token :: after →
          (∀ earlier ∈ before, ¬earlier.Misspelled) → token.Misspelled →
          tree.value.mapError ValueFault.reason = .error
            (if token.lexeme = "" then "empty literal"
              else "'" ++ token.lexeme ++ "' is not a valid number")) ∧
        (∀ kind : Kind, tree.value.mapError ValueFault.reason ≠
          .error (kind.name ++ " is not a literal")) ∧
        tree.value.mapError ValueFault.reason ≠ .error "unknown operator NUM") ∧
      ∀ source,
        (∀ showTree fault, (Line.response showTree source).outcome =
            .error fault ↔ (Line.value source).outcome = .error fault) ∧
        (∀ cause, (Line.value source).outcome ≠ .error (.value cause)) ∧
        ((∃ c, (Line.value source).outcome = .error (.foreign c)) ↔
          ∃ c ∈ source.toList, isForeign c = true) ∧
        ((∀ c ∈ source.toList, isForeign c = false) →
          ∃ tokens, (Line.tokens source).outcome = .ok tokens ∧
            ∀ fault, (Line.value source).outcome = .error fault ↔
              ∃ cause, Expr.ofTokens tokens = .error cause ∧
                fault = .grammar cause) := by
  refine ⟨?_, ?_⟩
  · intro tokens tree hread
    have hreason : ∀ cause, tree.value.mapError ValueFault.reason =
        .error cause.reason → tree.value = .error cause := by
      intro cause hcause
      obtain ⟨fault, hfault, htext⟩ := Except.mapError_eq_error_iff.mp hcause
      rw [hfault, ValueFault.reason_injective htext]
    refine ⟨Expr.exists_value_eq_error_iff_of_ofTokens hread, ?_, ?_, ?_⟩
    · rintro before token after rfl hbefore htoken
      rw [Expr.value_of_first_misspelled hread hbefore htoken]
      by_cases hempty : token.lexeme = ""
      · simp [hempty, Except.mapError]
      · simp [hempty, Except.mapError]
    · intro kind hkind
      have hcases := Expr.value_error_cases_of_ofTokens hread
        (hreason (.notLiteral kind) hkind)
      simp at hcases
    · intro hnumber
      have hcases := Expr.value_error_cases_of_ofTokens hread
        (hreason (.notOperator .number) hnumber)
      simp at hcases
  · intro source
    simp only [response_outcome_eq_error_iff, value_outcome_eq_error_iff,
      ne_eq, implies_true, true_and]
    refine ⟨?_, expr_outcome_eq_foreign_iff, expr_outcome_of_clean⟩
    intro cause hcause
    simp [expr_outcome_eq_error_iff, tokens_outcome_eq_error_iff] at hcause

/-- The second number is at fault, and so is the third. -/
theorem Line.faults_of_stages_two_misspelled :
    ∃ tree, Expr.ofTokens [⟨.number, "1"⟩, ⟨.plus, "+"⟩, ⟨.number, "x"⟩,
        ⟨.times, "*"⟩, ⟨.number, ""⟩] = .ok tree ∧
      tree.value.mapError ValueFault.reason =
        .error "'x' is not a valid number" := by
  have hread : Expr.ofTokens [⟨.number, "1"⟩, ⟨.plus, "+"⟩, ⟨.number, "x"⟩,
      ⟨.times, "*"⟩, ⟨.number, ""⟩] = .ok
        (.binary .plus (.literal ⟨.number, "1"⟩)
          (.binary .times (.literal ⟨.number, "x"⟩) (.literal ⟨.number, ""⟩))) := by
    rw [Expr.ofTokens_eq_ok_iff]
    refine ⟨.join rfl (.product (.number rfl)) (.times (.number rfl) rfl), ?_,
      by decide⟩
    simp [Expr.Spells, Expr.inOrder, Expr.Entry.Matches]
  have hfirst := (Line.faults_of_stages.1 _ _ hread).2.1
    [⟨.number, "1"⟩, ⟨.plus, "+"⟩] ⟨.number, "x"⟩ [⟨.times, "*"⟩, ⟨.number, ""⟩]
    rfl (by simp [Token.Misspelled]) (by simp [Token.Misspelled])
  exact ⟨_, hread, by simpa using hfirst⟩

end LineCalculator
