import LineCalculator.Line
import Mathlib.Tactic

/-!
# What is recorded of a line

Each stage records what it found: a scan its tokens one by one, and the two
stages behind it the list of tokens and the tree.  Evaluation and the wording
of the response record nothing, so a line leaves the same events whether or
not its tree is shown.
-/

namespace LineCalculator

theorem Traced.bind_events_of_silent {α β : Type} (first : Traced α)
    {next : α → Traced β} (hnext : ∀ found, (next found).events = []) :
    (first >>= next).events = first.events := by
  cases hfirst : first.outcome with
  | error fault => rw [Traced.bind_of_error next hfirst]
  | ok found => simp [Traced.bind_of_ok next hfirst, hnext]

namespace Line

theorem response_events (showTree : Bool) (source : String) :
    (Line.response showTree source).events = (Line.expr source).events := by
  have hdecimal : ∀ (outcome : Except Fault Int64) (text : Int64 → String),
      (Traced.silent outcome >>= fun result => pure (text result)).events = [] := by
    intro outcome text
    rw [Traced.bind_events_of_silent _ fun result => rfl]
    rfl
  cases showTree with
  | true =>
      rw [Line.response, if_pos rfl, Traced.bind_events_of_silent]
      intro tree
      exact hdecimal _ _
  | false =>
      rw [Line.response, if_neg (by simp), Traced.bind_events_of_silent,
        Line.value, Traced.bind_events_of_silent]
      · intro tree
        rfl
      · intro result
        rfl

theorem expr_events (source : String) :
    (Line.expr source).events =
      (Scan.ofString source).found.map Event.scanned ++
        match (Line.tokens source).outcome with
        | .error _ => []
        | .ok tokens => .tokens tokens ::
            match Expr.ofTokens tokens with
            | .error _ => []
            | .ok tree => [.tree tree] := by
  have hfound : (Line.tokens source).events =
      (Scan.ofString source).found.map Event.scanned := rfl
  cases hscan : (Line.tokens source).outcome with
  | error fault =>
      rw [Line.expr, Traced.bind_of_error _ hscan, hfound]
      simp
  | ok tokens =>
      rw [Line.expr, Traced.bind_of_ok _ hscan, hfound]
      cases hread : Expr.ofTokens tokens with
      | error cause =>
          simp only [hread]
          rfl
      | ok tree =>
          simp only [hread]
          rfl

/-- A line by itself is recorded below the level of warnings. -/
theorem level_of_mem_events {showTree : Bool} {source : String} {event : Event}
    (hevent : event ∈ (Line.response showTree source).events) :
    event.level = .trace ∨ event.level = .debug := by
  rw [response_events, expr_events, List.mem_append] at hevent
  rcases hevent with hscanned | hstage
  · obtain ⟨found, _, rfl⟩ := List.mem_map.mp hscanned
    exact .inl rfl
  · right
    split at hstage
    next => simp at hstage
    next tokens _ =>
      rcases List.mem_cons.mp hstage with rfl | htree
      · rfl
      · split at htree
        next => simp at htree
        next tree _ =>
          rw [List.mem_singleton] at htree
          rw [htree]
          rfl

end Line
end LineCalculator
