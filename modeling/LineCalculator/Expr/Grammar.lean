import LineCalculator.Expr.Basic
import LineCalculator.Fault

/-!
# Expressions from tokens

A sum is a chain of products joined by additive operators, and a product is a
chain of numbers joined by multiplication.  Both chains nest to the left.

Operators are counted as they are applied, across the whole expression, and
the count is bounded by `operatorLimit`.  An operator is applied once its right
operand is complete, so an additive operator waits for the product behind it.

`Expr.readLiteral_rest_length_lt` and `Expr.readProduct_rest_length_lt` say that
an operand leaves fewer tokens behind it; both chains end for that reason.
-/

namespace LineCalculator

/-- An expression read from the front of a token list: the expression, the
operators applied up to here, and the tokens behind it. -/
structure Reading where
  expr : Expr
  operators : Nat
  rest : List Token
  deriving DecidableEq, Repr

namespace Expr

def readLiteral : List Token → Except GrammarFault (Expr × List Token)
  | [] => .error (.numberExpected none)
  | token :: rest =>
      if token.kind = .number then .ok (.literal token, rest)
      else .error (.numberExpected (some token.lexeme))

theorem readLiteral_rest_length_lt {tokens rest : List Token} {expr : Expr}
    (hread : readLiteral tokens = .ok (expr, rest)) :
    rest.length < tokens.length := by
  cases tokens with
  | nil => simp [readLiteral] at hread
  | cons token tokens =>
      simp only [readLiteral] at hread
      split at hread <;> simp_all

/-- Applies one more operator after `operators` others. -/
def applyOperator (operators : Nat) (operator : Kind) (left right : Expr) :
    Except GrammarFault (Expr × Nat) :=
  if operators + 1 > operatorLimit then .error .operatorLimitExceeded
  else .ok (.binary operator left right, operators + 1)

/-- Extends a product by the multiplications that follow it. -/
def extendProduct (left : Expr) (operators : Nat) (tokens : List Token) :
    Except GrammarFault Reading :=
  match tokens with
  | [] => .ok ⟨left, operators, []⟩
  | token :: behind =>
      if token.kind = .times then
        match _ : readLiteral behind with
        | .error fault => .error fault
        | .ok (right, rest) =>
            match applyOperator operators .times left right with
            | .error fault => .error fault
            | .ok (expr, count) => extendProduct expr count rest
      else .ok ⟨left, operators, token :: behind⟩
termination_by tokens.length
decreasing_by
  have := readLiteral_rest_length_lt ‹_›
  simp only [List.length_cons]
  omega

def readProduct (operators : Nat) (tokens : List Token) :
    Except GrammarFault Reading :=
  match readLiteral tokens with
  | .error fault => .error fault
  | .ok (first, rest) => extendProduct first operators rest

theorem extendProduct_rest_length_le {left : Expr} {operators : Nat}
    {tokens : List Token} {reading : Reading}
    (hread : extendProduct left operators tokens = .ok reading) :
    reading.rest.length ≤ tokens.length := by
  fun_induction extendProduct left operators tokens with
  | case1 => cases hread; simp
  | case2 => simp at hread
  | case3 => simp at hread
  | case4 left operators token behind _ right rest hliteral expr count _ ih =>
      have := readLiteral_rest_length_lt hliteral
      have := ih hread
      simp only [List.length_cons]
      omega
  | case5 => cases hread; simp

theorem readProduct_rest_length_lt {operators : Nat} {tokens : List Token}
    {reading : Reading} (hread : readProduct operators tokens = .ok reading) :
    reading.rest.length < tokens.length := by
  unfold readProduct at hread
  split at hread
  · simp at hread
  · rename_i first rest hliteral
    have := readLiteral_rest_length_lt hliteral
    have := extendProduct_rest_length_le hread
    omega

/-- Extends a sum by the additions and subtractions that follow it. -/
def extendSum (left : Expr) (operators : Nat) (tokens : List Token) :
    Except GrammarFault Reading :=
  match tokens with
  | [] => .ok ⟨left, operators, []⟩
  | token :: behind =>
      if token.kind.isAdditive then
        match _ : readProduct operators behind with
        | .error fault => .error fault
        | .ok right =>
            match applyOperator right.operators token.kind left right.expr with
            | .error fault => .error fault
            | .ok (expr, count) => extendSum expr count right.rest
      else .ok ⟨left, operators, token :: behind⟩
termination_by tokens.length
decreasing_by
  have := readProduct_rest_length_lt ‹_›
  simp only [List.length_cons]
  omega

def readSum (operators : Nat) (tokens : List Token) :
    Except GrammarFault Reading :=
  match readProduct operators tokens with
  | .error fault => .error fault
  | .ok first => extendSum first.expr first.operators first.rest

/-- The expression that a whole list of tokens spells. -/
def ofTokens (tokens : List Token) : Except GrammarFault Expr :=
  match readSum 0 tokens with
  | .error fault => .error fault
  | .ok reading =>
      match reading.rest with
      | [] => .ok reading.expr
      | token :: _ => .error (.endExpected token.lexeme)

end Expr

end LineCalculator
