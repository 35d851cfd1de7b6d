import LineCalculator.Proofs.Expr.Stepping
import Mathlib.Tactic

/-!
# Reading within the limit

A product or a sum may be read from any place of a token list and after any
number of operators within the limit.  `Reading.Spans` is the contract for both:
which tokens were taken, that their operators were counted, and how deep the
tree can be.

In a run two loops share the count, and each holds trees of its own.  The trees
held at once have no more operators than were counted, so that none of them ever
outgrows the limit, also when the run fails later.  A loop passes two tokens
before it comes back to its head.
-/

namespace LineCalculator

/-- The number of nodes on the longest path from the root to a leaf. -/
def Expr.depth : Expr → Nat
  | .literal _ => 1
  | .binary _ left right => max left.depth right.depth + 1

/-- A reading of the tokens from `start` up to `stop`, after `count` operators. -/
structure Reading.Spans (reading : Reading) (tokens : List Token)
    (start stop count : Nat) : Prop where
  start_lt : start < stop
  stop_le : stop ≤ tokens.length
  rest_eq : reading.rest = tokens.drop stop
  spells : reading.expr.Spells (tokens.extract start stop)
  counted : reading.operators = count + reading.expr.operatorCount
  bounded : reading.operators ≤ 1024
  depth_le : reading.expr.depth ≤ 1025 - count

inductive Loop where
  | product
  | sum
  deriving DecidableEq, Repr

namespace Task

def held : Task → List Expr
  | .operand outer => outer.toList.map Prod.fst
  | .product outer left => outer.toList.map Prod.fst ++ [left]
  | .multiply outer left right => outer.toList.map Prod.fst ++ [left, right]
  | .sum left => [left]
  | .join _ left right => [left, right]
  | .done (.ok expr) => [expr]
  | .done (.error _) => []

def loop? : Task → Option Loop
  | .product _ _ => some .product
  | .sum _ => some .sum
  | .operand _ | .multiply _ _ _ | .join _ _ _ | .done _ => none

end Task

theorem Expr.depth_le (expr : Expr) : expr.depth ≤ expr.operatorCount + 1 := by
  induction expr with
  | literal token => exact Nat.le_refl _
  | binary operator left right ihLeft ihRight =>
      simp only [depth, operatorCount]
      omega

namespace Reader

open LineCalculator.Expr

variable {reader after : Reader}

/-! ## The trees held at once -/

/-- The trees held at once have no more operators than were counted. -/
structure Counted (reader : Reader) : Prop where
  total_le : (reader.task.held.map operatorCount).sum ≤ reader.operators
  le_limit : reader.operators ≤ operatorLimit

theorem Moves.counted (hmoves : reader.Moves after) (hcounted : reader.Counted) :
    after.Counted := by
  have htotal := hcounted.total_le
  have hlimit := hcounted.le_limit
  cases hmoves with
  | fail reader fault rest => exact ⟨Nat.zero_le _, hlimit⟩
  | start outer operators rest _ =>
      refine ⟨?_, hlimit⟩
      simpa [Task.held, operatorCount] using htotal
  | extend outer left operators rest _ _ =>
      refine ⟨?_, hlimit⟩
      simpa [Task.held, operatorCount] using htotal
  | multiply outer left right rest hlt =>
      refine ⟨?_, hlt⟩
      simp only [Task.held, List.map_append, List.sum_append, List.map_cons,
        List.map_nil, List.sum_cons, List.sum_nil, operatorCount] at htotal ⊢
      omega
  | complete outer left operators _ =>
      refine ⟨?_, hlimit⟩
      cases outer <;> simpa [Task.held, Task.ofProduct] using htotal
  | pass left operators rest _ => exact ⟨htotal, hlimit⟩
  | join operator left right rest hlt =>
      refine ⟨?_, hlt⟩
      simp only [Task.held, List.map_cons, List.map_nil, List.sum_cons,
        List.sum_nil, operatorCount] at htotal ⊢
      omega
  | finish left operators => exact ⟨htotal, hlimit⟩
  | stay outcome operators rest => exact hcounted

theorem run_counted (tokens : List Token) (count : Nat) :
    (run tokens count).Counted := by
  induction count with
  | zero => exact ⟨Nat.le_refl _, Nat.zero_le _⟩
  | succ count ih =>
      rw [run_succ]
      exact (moves_step _).counted ih

theorem Counted.operatorCount_le (hcounted : reader.Counted) {expr : Expr}
    (hheld : expr ∈ reader.task.held) : expr.operatorCount ≤ operatorLimit :=
  calc
    expr.operatorCount ≤ (reader.task.held.map operatorCount).sum :=
      List.le_sum_of_mem (List.mem_map_of_mem hheld)
    _ ≤ reader.operators := hcounted.total_le
    _ ≤ operatorLimit := hcounted.le_limit

/-! ## Loops -/

/-- How many tokens are passed at least until reading is at the head of a
loop. -/
def lead (loop : Loop) : Task → Nat
  | .operand _ => 1
  | .product _ _ | .multiply _ _ _ | .done _ => 0
  | .sum _ | .join _ _ _ =>
      match loop with
      | .product => 2
      | .sum => 0

variable {loop : Loop}

theorem lead_of_loop? {task : Task} (hloop : task.loop? = some loop) :
    lead loop task = 0 := by
  cases task with
  | product _ _ => rfl
  | sum _ =>
      obtain rfl : Loop.sum = loop := by simpa [Task.loop?] using hloop
      rfl
  | operand _ | multiply _ _ _ | join _ _ _ | done _ => simp [Task.loop?] at hloop

/-- Behind the head of a loop the next one is two tokens away, and elsewhere a
step passes no more tokens than it takes off the lead. -/
theorem Moves.lead_le (hmoves : reader.Moves after) (loop : Loop)
    (hdone : ∀ outcome, after.task ≠ .done outcome) :
    (if reader.task.loop? = some loop then 2 else lead loop reader.task) +
      after.rest.length ≤ lead loop after.task + reader.rest.length := by
  cases hmoves with
  | fail reader fault rest => exact absurd rfl (hdone _)
  | start outer operators rest _ =>
      simp only [Task.loop?, reduceCtorEq, if_false, lead, List.length_cons]
      omega
  | extend outer left operators rest _ _ =>
      simp only [lead, List.length_cons]
      split <;> omega
  | multiply outer left right rest _ => simp [lead, Task.loop?]
  | complete outer left operators _ =>
      -- The next product stands behind an additive operator and starts with a
      -- number: these are the two tokens of its lead.
      cases loop <;> cases outer <;> simp [lead, Task.loop?, Task.ofProduct]
  | pass left operators rest _ =>
      cases loop <;> simp [lead, Task.loop?] <;> omega
  | join operator left right rest _ => cases loop <;> simp [lead, Task.loop?]
  | finish left operators => exact absurd rfl (hdone _)
  | stay outcome operators rest => exact absurd rfl (hdone _)

theorem ne_done_of_loop? {count : Nat}
    (hloop : (step^[count] reader).task.loop? = some loop)
    (outcome : Except GrammarFault Expr) : reader.task ≠ .done outcome := by
  rcases reader with ⟨task, operators, tokens⟩
  rintro rfl
  rw [Function.iterate_fixed rfl] at hloop
  simp [Task.loop?] at hloop

theorem lead_le_of_loop? {count : Nat}
    (hloop : (step^[count] reader).task.loop? = some loop) :
    lead loop reader.task + (step^[count] reader).rest.length ≤
      reader.rest.length := by
  induction count generalizing reader with
  | zero =>
      have hlead : lead loop reader.task = 0 := lead_of_loop? hloop
      rw [hlead, Nat.zero_add]
      exact Nat.le_refl _
  | succ count ih =>
      rw [Function.iterate_succ_apply] at hloop ⊢
      have hlater := ih hloop
      have hstep := (moves_step reader).lead_le loop (ne_done_of_loop? hloop)
      split at hstep
      · rename_i hhead
        rw [lead_of_loop? hhead]
        omega
      · omega

theorem two_le_of_loop? {tokens : List Token} {earlier later : Nat}
    (hlt : earlier < later) (hearlier : (run tokens earlier).task.loop? = some loop)
    (hlater : (run tokens later).task.loop? = some loop) :
    (run tokens later).rest.length + 2 ≤ (run tokens earlier).rest.length := by
  obtain ⟨between, rfl⟩ := Nat.exists_eq_add_of_lt hlt
  have hrun : run tokens (earlier + between + 1) =
      step^[between] (run tokens earlier).step := by
    rw [run, run, show earlier + between + 1 = between + 1 + earlier by omega,
      Function.iterate_add_apply, Function.iterate_succ_apply]
  rw [hrun] at hlater ⊢
  have hstep := (moves_step (run tokens earlier)).lead_le loop
    (ne_done_of_loop? hlater)
  have hrest := lead_le_of_loop? hlater
  rw [if_pos hearlier] at hstep
  omega

end Reader

/-! ## Readings from any state -/

namespace Expr

theorem Spells.ne_nil {expr : Expr} {tokens : List Token}
    (hspells : expr.Spells tokens) : tokens ≠ [] := by
  cases expr with
  | literal token => simp [spells_literal.mp hspells]
  | binary operator left right =>
      obtain ⟨before, sign, after, rfl, _⟩ := spells_binary.mp hspells
      simp

theorem extendSum_stop {left : Expr} {operators : Nat} {tokens : List Token}
    {reading : Reading} (hstop : ∀ token ∈ tokens.head?, token.kind ≠ .times)
    (hread : extendSum left operators tokens = .ok reading) :
    ∀ token ∈ reading.rest.head?, token.kind = .number := by
  fun_induction extendSum left operators tokens with
  | case1 =>
      cases hread
      simp
  | case2 => simp at hread
  | case3 => simp at hread
  | case4 left operators sign behind hsign right hproduct expr count happly ih =>
      exact ih (readProduct_stop hproduct) hread
  | case5 left operators token behind hkind =>
      cases hread
      have htimes : token.kind ≠ .times := by simpa using hstop
      simpa using Kind.eq_number_of_not_operator htimes (by simpa using hkind)

theorem readSum_stop {operators : Nat} {tokens : List Token} {reading : Reading}
    (hread : readSum operators tokens = .ok reading) :
    ∀ token ∈ reading.rest.head?, token.kind = .number := by
  unfold readSum at hread
  split at hread
  · simp at hread
  · rename_i first hfirst
    exact extendSum_stop (readProduct_stop hfirst) hread

end Expr

theorem Reading.Covers.exists_spans {reading : Reading} {tokens : List Token}
    {start count : Nat} (hcovers : reading.Covers count (tokens.drop start)) :
    ∃ stop, reading.Spans tokens start stop count := by
  rcases hcovers.spelled with ⟨read, hsplit, hspells⟩
  have hcounted := hcovers.counted
  have hbounded : reading.operators ≤ 1024 := hcovers.bounded
  have hdepth := reading.expr.depth_le
  have hpos := List.length_pos_iff.mpr hspells.ne_nil
  have hlength := congrArg List.length hsplit
  rw [List.length_drop, List.length_append] at hlength
  refine ⟨start + read.length, by omega, by omega, ?_, ?_, hcounted, hbounded,
    by omega⟩
  · rw [← List.drop_drop, hsplit, List.drop_left]
  · rw [List.extract_eq_take_drop, hsplit, Nat.add_sub_cancel_left, List.take_left]
    exact hspells

/-- Reading keeps within the limit.  From any place and count that is within it,
a product or a sum takes the tokens that its tree spells, stops where its loop
cannot go on, and has counted its own operators.  At every moment of a run,
successful or not, the recursive functions lead from what is held to the outcome,
and the trees that are held at once stay within the limit together.  A loop
passes two tokens before it comes back to its head, and the run ends with the
outcome. -/
theorem Expr.read_within_limit (tokens : List Token) :
    (∀ start count reading, count ≤ 1024 →
      readProduct count (tokens.drop start) = .ok reading →
      ∃ stop, reading.Spans tokens start stop count ∧
        ∀ token ∈ tokens[stop]?, token.kind ≠ .times) ∧
      (∀ start count reading, count ≤ 1024 →
        readSum count (tokens.drop start) = .ok reading →
        ∃ stop, reading.Spans tokens start stop count ∧
          ∀ token ∈ tokens[stop]?, token.kind ≠ .times ∧ token.kind ≠ .plus ∧
            token.kind ≠ .minus) ∧
      (∀ steps, (Reader.run tokens steps).answer = ofTokens tokens ∧
        ((Reader.run tokens steps).task.held.map operatorCount).sum ≤ 1024 ∧
        ∀ expr ∈ (Reader.run tokens steps).task.held,
          expr.operatorCount ≤ 1024 ∧ expr.depth ≤ 1025) ∧
      (∀ steps, 4 * tokens.length + 1 ≤ steps →
        (Reader.run tokens steps).task = .done (ofTokens tokens)) ∧
      ∀ loop earlier later, earlier < later →
        (Reader.run tokens earlier).task.loop? = some loop →
        (Reader.run tokens later).task.loop? = some loop →
        (Reader.run tokens later).rest.length + 2 ≤
          (Reader.run tokens earlier).rest.length := by
  refine ⟨?_, ?_, ?_, fun steps => Reader.run_done,
    fun loop earlier later => Reader.two_le_of_loop?⟩
  · intro start count reading hcount hread
    obtain ⟨stop, hspans⟩ := (readProduct_covers hcount hread).1.exists_spans
    refine ⟨stop, hspans, ?_⟩
    rw [← List.head?_drop, ← hspans.rest_eq]
    exact readProduct_stop hread
  · intro start count reading hcount hread
    obtain ⟨stop, hspans⟩ := (readSum_covers hcount hread).1.exists_spans
    refine ⟨stop, hspans, ?_⟩
    rw [← List.head?_drop, ← hspans.rest_eq]
    intro token htoken
    simp [readSum_stop hread token htoken]
  · intro steps
    have hcounted := Reader.run_counted tokens steps
    refine ⟨Reader.run_answer tokens steps,
      hcounted.total_le.trans hcounted.le_limit, ?_⟩
    intro expr hheld
    have hcount : expr.operatorCount ≤ 1024 := hcounted.operatorCount_le hheld
    have hdepth := expr.depth_le
    exact ⟨hcount, by omega⟩

/-- The tokens of `2*3+4`. -/
def productAndNumber : List Token :=
  [⟨.number, "2"⟩, ⟨.times, "*"⟩, ⟨.number, "3"⟩, ⟨.plus, "+"⟩, ⟨.number, "4"⟩]

/-- After 1022 operators the two of `2*3+4` reach the limit, and after 1023 the
first of them does.  The product loop is at its head after one step and after
three. -/
theorem Expr.read_within_limit_reached :
    (∃ product, readProduct 1023 productAndNumber = .ok product ∧
      product.operators = 1024 ∧
      ∃ stop, product.Spans productAndNumber 0 stop 1023) ∧
      (∃ sum, readSum 1022 productAndNumber = .ok sum ∧ sum.operators = 1024 ∧
        ∃ stop, sum.Spans productAndNumber 0 stop 1022) ∧
      (Reader.run productAndNumber 3).rest.length + 2 ≤
        (Reader.run productAndNumber 1).rest.length ∧
      (Reader.run productAndNumber 21).task = .done (ofTokens productAndNumber) := by
  have hproduct : readProduct 1023 productAndNumber =
      .ok ⟨.binary .times (.literal ⟨.number, "2"⟩) (.literal ⟨.number, "3"⟩), 1024,
        [⟨.plus, "+"⟩, ⟨.number, "4"⟩]⟩ := by
    cbv
  have hsum : readSum 1022 productAndNumber =
      .ok ⟨.binary .plus
        (.binary .times (.literal ⟨.number, "2"⟩) (.literal ⟨.number, "3"⟩))
        (.literal ⟨.number, "4"⟩), 1024, []⟩ := by
    have hfirst : readProduct 1022 productAndNumber =
        .ok ⟨.binary .times (.literal ⟨.number, "2"⟩) (.literal ⟨.number, "3"⟩), 1023,
          [⟨.plus, "+"⟩, ⟨.number, "4"⟩]⟩ := by
      cbv
    have hnumber : readProduct 1023 [⟨.number, "4"⟩] =
        .ok ⟨.literal ⟨.number, "4"⟩, 1023, []⟩ := by
      cbv
    simp only [readSum, hfirst]
    rw [extendSum_cons_additive rfl hnumber (by decide)]
    exact extendSum_of_stop (by simp)
  obtain ⟨hproducts, hsums, _, hdone, hloops⟩ := read_within_limit productAndNumber
  obtain ⟨productStop, hproductSpans, _⟩ := hproducts 0 1023 _ (by decide) hproduct
  obtain ⟨sumStop, hsumSpans, _⟩ := hsums 0 1022 _ (by decide) hsum
  exact ⟨⟨_, hproduct, rfl, productStop, hproductSpans⟩,
    ⟨_, hsum, rfl, sumStop, hsumSpans⟩, hloops .product 1 3 (by decide) rfl rfl,
    hdone 21 (by decide)⟩

end LineCalculator
