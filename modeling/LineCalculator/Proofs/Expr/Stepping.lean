import LineCalculator.Proofs.Expr.Shape
import Mathlib.Tactic

/-!
# Reading step by step

The two loops of reading run one inside the other and hold their partial trees
separately: while a product is read, the sum in front of it waits.  A `Reader`
is one moment of this work.  It has all trees that are held at that moment, the
operators counted so far and the tokens ahead, and `Reader.step` leads to the
next moment.

`Reader.Moves` lists what a step can do, so that what a step preserves is shown
case by case from it.  `Reader.answer` ties the steps to the recursive
functions: each step keeps what they would find, and after enough steps that is
the outcome.
-/

namespace LineCalculator

/-- What is done next, and the trees that are held until then.  While a product
is read, `outer` holds the sum in front of it and the operator between them. -/
inductive Task where
  /-- A product starts. -/
  | operand (outer : Option (Expr × Kind))
  /-- The head of the product loop. -/
  | product (outer : Option (Expr × Kind)) (left : Expr)
  | multiply (outer : Option (Expr × Kind)) (left right : Expr)
  /-- The head of the sum loop. -/
  | sum (left : Expr)
  | join (operator : Kind) (left right : Expr)
  | done (outcome : Except GrammarFault Expr)

/-- A product that is complete is the first of its sum or joins the others. -/
def Task.ofProduct (outer : Option (Expr × Kind)) (product : Expr) : Task :=
  match outer with
  | none => .sum product
  | some (left, operator) => .join operator left product

structure Reader where
  task : Task
  operators : Nat
  rest : List Token

namespace Reader

open LineCalculator.Expr

def step : Reader → Reader
  | ⟨.operand outer, operators, tokens⟩ =>
      match readLiteral tokens with
      | .error fault => ⟨.done (.error fault), operators, tokens⟩
      | .ok (first, rest) => ⟨.product outer first, operators, rest⟩
  | ⟨.product outer left, operators, []⟩ => ⟨.ofProduct outer left, operators, []⟩
  | ⟨.product outer left, operators, sign :: behind⟩ =>
      if sign.kind = .times then
        match readLiteral behind with
        | .error fault => ⟨.done (.error fault), operators, behind⟩
        | .ok (right, rest) => ⟨.multiply outer left right, operators, rest⟩
      else ⟨.ofProduct outer left, operators, sign :: behind⟩
  | ⟨.multiply outer left right, operators, tokens⟩ =>
      match applyOperator operators .times left right with
      | .error fault => ⟨.done (.error fault), operators, tokens⟩
      | .ok (expr, count) => ⟨.product outer expr, count, tokens⟩
  | ⟨.sum left, operators, []⟩ => ⟨.done (.ok left), operators, []⟩
  | ⟨.sum left, operators, sign :: behind⟩ =>
      if sign.kind.isAdditive then
        ⟨.operand (some (left, sign.kind)), operators, behind⟩
      else ⟨.done (.error (.endExpected sign.lexeme)), operators, sign :: behind⟩
  | ⟨.join operator left right, operators, tokens⟩ =>
      match applyOperator operators operator left right with
      | .error fault => ⟨.done (.error fault), operators, tokens⟩
      | .ok (expr, count) => ⟨.sum expr, count, tokens⟩
  | ⟨.done outcome, operators, tokens⟩ => ⟨.done outcome, operators, tokens⟩

/-- The reader after `count` steps from the start of `tokens`. -/
def run (tokens : List Token) (count : Nat) : Reader :=
  step^[count] ⟨.operand none, 0, tokens⟩

/-- What a step can do. -/
inductive Moves : Reader → Reader → Prop where
  | fail (reader : Reader) (fault : GrammarFault) (rest : List Token) :
      Moves reader ⟨.done (.error fault), reader.operators, rest⟩
  | start (outer : Option (Expr × Kind)) (operators : Nat) {token : Token}
      (rest : List Token) (hkind : token.kind = .number) :
      Moves ⟨.operand outer, operators, token :: rest⟩
        ⟨.product outer (.literal token), operators, rest⟩
  | extend (outer : Option (Expr × Kind)) (left : Expr) (operators : Nat)
      {sign token : Token} (rest : List Token) (hsign : sign.kind = .times)
      (hkind : token.kind = .number) :
      Moves ⟨.product outer left, operators, sign :: token :: rest⟩
        ⟨.multiply outer left (.literal token), operators, rest⟩
  | multiply (outer : Option (Expr × Kind)) (left right : Expr) {operators : Nat}
      (rest : List Token) (hlimit : operators < operatorLimit) :
      Moves ⟨.multiply outer left right, operators, rest⟩
        ⟨.product outer (.binary .times left right), operators + 1, rest⟩
  | complete (outer : Option (Expr × Kind)) (left : Expr) (operators : Nat)
      {rest : List Token} (hstop : ∀ token ∈ rest.head?, token.kind ≠ .times) :
      Moves ⟨.product outer left, operators, rest⟩
        ⟨.ofProduct outer left, operators, rest⟩
  | pass (left : Expr) (operators : Nat) {sign : Token} (rest : List Token)
      (hsign : sign.kind.isAdditive = true) :
      Moves ⟨.sum left, operators, sign :: rest⟩
        ⟨.operand (some (left, sign.kind)), operators, rest⟩
  | join (operator : Kind) (left right : Expr) {operators : Nat}
      (rest : List Token) (hlimit : operators < operatorLimit) :
      Moves ⟨.join operator left right, operators, rest⟩
        ⟨.sum (.binary operator left right), operators + 1, rest⟩
  | finish (left : Expr) (operators : Nat) :
      Moves ⟨.sum left, operators, []⟩ ⟨.done (.ok left), operators, []⟩
  | stay (outcome : Except GrammarFault Expr) (operators : Nat)
      (rest : List Token) :
      Moves ⟨.done outcome, operators, rest⟩ ⟨.done outcome, operators, rest⟩

theorem moves_step (reader : Reader) : reader.Moves reader.step := by
  fun_cases step reader with
  | case1 outer operators tokens fault hread => exact .fail _ fault tokens
  | case2 outer operators tokens first rest hread =>
      rcases readLiteral_cases hread with ⟨token, rfl, hkind, rfl⟩
      exact .start outer operators rest hkind
  | case3 outer left operators => exact .complete outer left operators (by simp)
  | case4 outer left operators sign behind hsign fault hread =>
      exact .fail _ fault behind
  | case5 outer left operators sign behind hsign right rest hread =>
      rcases readLiteral_cases hread with ⟨token, rfl, hkind, rfl⟩
      exact .extend outer left operators rest hsign hkind
  | case6 outer left operators sign behind hsign =>
      exact .complete outer left operators (by simpa using hsign)
  | case7 outer left right operators tokens fault happly =>
      exact .fail _ fault tokens
  | case8 outer left right operators tokens expr count happly =>
      rcases applyOperator_cases happly with ⟨hlimit, rfl, rfl⟩
      exact .multiply outer left right tokens hlimit
  | case9 left operators => exact .finish left operators
  | case10 left operators sign behind hsign => exact .pass left operators behind hsign
  | case11 left operators sign behind hsign => exact .fail _ _ _
  | case12 operator left right operators tokens fault happly =>
      exact .fail _ fault tokens
  | case13 operator left right operators tokens expr count happly =>
      rcases applyOperator_cases happly with ⟨hlimit, rfl, rfl⟩
      exact .join operator left right tokens hlimit
  | case14 outcome operators tokens => exact .stay outcome operators tokens

theorem run_succ (tokens : List Token) (count : Nat) :
    run tokens (count + 1) = (run tokens count).step :=
  Function.iterate_succ_apply' _ _ _

variable {reader after : Reader}

/-! ## The steps that are left -/

/-- A bound on the steps that are left. -/
def work (reader : Reader) : Nat :=
  match reader.task with
  | .done _ => 0
  | .operand _ | .sum _ => 4 * reader.rest.length + 1
  | .join _ _ _ => 4 * reader.rest.length + 2
  | .product _ _ => 4 * reader.rest.length + 3
  | .multiply _ _ _ => 4 * reader.rest.length + 4

theorem Moves.work_le (hmoves : reader.Moves after) :
    after.work ≤ reader.work - 1 := by
  cases hmoves with
  | fail reader fault rest => exact Nat.zero_le _
  | start outer operators rest _ =>
      simp only [work, List.length_cons]
      omega
  | extend outer left operators rest _ _ =>
      simp only [work, List.length_cons]
      omega
  | multiply outer left right rest _ => simp [work]
  | complete outer left operators _ => cases outer <;> simp [work, Task.ofProduct]
  | pass left operators rest _ =>
      simp only [work, List.length_cons]
      omega
  | join operator left right rest _ => simp [work]
  | finish left operators => exact Nat.zero_le _
  | stay outcome operators rest => exact Nat.zero_le _

/-! ## What the recursive functions find -/

/-- What is found behind a product that is complete. -/
def afterProduct (outer : Option (Expr × Kind)) (product : Reading) :
    Except GrammarFault Reading :=
  match outer with
  | none => extendSum product.expr product.operators product.rest
  | some (left, operator) => do
      let (expr, count) ← applyOperator product.operators operator left product.expr
      extendSum expr count product.rest

/-- What is found behind the whole sum. -/
def afterSum (sum : Reading) : Except GrammarFault Expr :=
  match sum.rest with
  | [] => .ok sum.expr
  | token :: _ => .error (.endExpected token.lexeme)

/-- What the recursive functions find from a moment on. -/
def answer : Reader → Except GrammarFault Expr
  | ⟨.operand outer, operators, tokens⟩ =>
      readProduct operators tokens >>= afterProduct outer >>= afterSum
  | ⟨.product outer left, operators, tokens⟩ =>
      extendProduct left operators tokens >>= afterProduct outer >>= afterSum
  | ⟨.multiply outer left right, operators, tokens⟩ => do
      let (expr, count) ← applyOperator operators .times left right
      extendProduct expr count tokens >>= afterProduct outer >>= afterSum
  | ⟨.sum left, operators, tokens⟩ => extendSum left operators tokens >>= afterSum
  | ⟨.join operator left right, operators, tokens⟩ => do
      let (expr, count) ← applyOperator operators operator left right
      extendSum expr count tokens >>= afterSum
  | ⟨.done outcome, _, _⟩ => outcome

theorem extendProduct_cons_of_times (left : Expr) (operators : Nat) {sign : Token}
    (behind : List Token) (hsign : sign.kind = .times) :
    extendProduct left operators (sign :: behind) = (do
      let (right, rest) ← readLiteral behind
      let (expr, count) ← applyOperator operators .times left right
      extendProduct expr count rest) := by
  rw [extendProduct]
  simp only [hsign, if_true]
  split
  · rename_i fault hread
    rw [hread]
    rfl
  · rename_i right rest hread
    rw [hread]
    split
    · rename_i fault happly
      simp [bind, Except.bind, happly]
    · rename_i expr count happly
      simp [bind, Except.bind, happly]

theorem extendSum_cons_of_additive (left : Expr) (operators : Nat) {sign : Token}
    (behind : List Token) (hsign : sign.kind.isAdditive = true) :
    extendSum left operators (sign :: behind) =
      (readProduct operators behind >>= afterProduct (some (left, sign.kind))) := by
  rw [extendSum]
  simp only [hsign, if_true]
  split
  · rename_i fault hread
    rw [hread]
    rfl
  · rename_i right hread
    rw [hread]
    split
    · rename_i fault happly
      simp [bind, Except.bind, afterProduct, happly]
    · rename_i expr count happly
      simp [bind, Except.bind, afterProduct, happly]

/-- A product that is complete is handed on, whether as a whole sum or to the one
that waits for it. -/
theorem answer_ofProduct (outer : Option (Expr × Kind)) (left : Expr)
    (operators : Nat) {tokens : List Token}
    (hstop : ∀ token ∈ tokens.head?, token.kind ≠ .times) :
    answer ⟨.ofProduct outer left, operators, tokens⟩ =
      answer ⟨.product outer left, operators, tokens⟩ := by
  simp only [answer, extendProduct_of_stop hstop]
  cases outer with
  | none => rfl
  | some waiting =>
      simp only [Task.ofProduct, bind, Except.bind, afterProduct]
      split <;> rfl

theorem answer_step (reader : Reader) : reader.step.answer = reader.answer := by
  fun_cases step reader with
  | case1 outer operators tokens fault hread =>
      rw [answer, answer, readProduct, hread]
      rfl
  | case2 outer operators tokens first rest hread =>
      rw [answer, answer, readProduct, hread]
  | case3 outer left operators =>
      exact answer_ofProduct outer left operators (by simp)
  | case4 outer left operators sign behind hsign fault hread =>
      rw [answer, answer, extendProduct_cons_of_times left operators behind hsign,
        hread]
      rfl
  | case5 outer left operators sign behind hsign right rest hread =>
      rw [answer, answer, extendProduct_cons_of_times left operators behind hsign,
        hread]
      cases happly : applyOperator operators .times left right with
      | error fault => simp [bind, Except.bind, happly]
      | ok joined => simp [bind, Except.bind, happly]
  | case6 outer left operators sign behind hsign =>
      exact answer_ofProduct outer left operators (by simpa using hsign)
  | case7 outer left right operators tokens fault happly =>
      rw [answer, answer, happly]
      rfl
  | case8 outer left right operators tokens expr count happly =>
      rw [answer, answer, happly]
      rfl
  | case9 left operators =>
      have hsum : extendSum left operators [] = .ok ⟨left, operators, []⟩ :=
        extendSum_of_stop (by simp)
      rw [answer, answer, hsum]
      rfl
  | case10 left operators sign behind hsign =>
      rw [answer, answer, extendSum_cons_of_additive left operators behind hsign]
  | case11 left operators sign behind hsign =>
      have hsum : extendSum left operators (sign :: behind) =
          .ok ⟨left, operators, sign :: behind⟩ :=
        extendSum_of_stop (by simpa using hsign)
      rw [answer, answer, hsum]
      rfl
  | case12 operator left right operators tokens fault happly =>
      rw [answer, answer, happly]
      rfl
  | case13 operator left right operators tokens expr count happly =>
      rw [answer, answer, happly]
      rfl
  | case14 outcome operators tokens => rfl

/-! ## Runs -/

theorem task_of_work_eq_zero (hwork : reader.work = 0) :
    reader.task = .done reader.answer := by
  rcases reader with ⟨task, operators, tokens⟩
  cases task with
  | done outcome => rfl
  | operand _ | product _ _ | multiply _ _ _ | sum _ | join _ _ _ =>
      simp [work] at hwork

theorem answer_operand_none (tokens : List Token) :
    answer ⟨.operand none, 0, tokens⟩ = ofTokens tokens := by
  rw [answer, ofTokens, readSum]
  cases readProduct 0 tokens with
  | error fault => rfl
  | ok first =>
      simp only [bind, Except.bind, afterProduct]
      cases extendSum first.expr first.operators first.rest <;> rfl

theorem run_answer (tokens : List Token) (count : Nat) :
    (run tokens count).answer = ofTokens tokens := by
  induction count with
  | zero => exact answer_operand_none tokens
  | succ count ih => rw [run_succ, answer_step, ih]

theorem run_work_le (tokens : List Token) (count : Nat) :
    (run tokens count).work ≤ 4 * tokens.length + 1 - count := by
  induction count with
  | zero => exact Nat.le_refl _
  | succ count ih =>
      have hstep := (moves_step (run tokens count)).work_le
      rw [run_succ]
      omega

theorem run_done {tokens : List Token} {count : Nat}
    (hcount : 4 * tokens.length + 1 ≤ count) :
    (run tokens count).task = .done (ofTokens tokens) := by
  have hwork := run_work_le tokens count
  rw [task_of_work_eq_zero (by omega), run_answer]

end Reader

end LineCalculator
