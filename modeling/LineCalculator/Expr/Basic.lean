import LineCalculator.Token.Basic

/-!
# Expressions

An expression is a tree whose leaves are tokens and whose inner nodes carry
the kind of an operator.  The type admits more trees than reading a line ever
builds: a leaf may hold any token and a node any kind.
-/

namespace LineCalculator

inductive Expr where
  | literal (token : Token)
  | binary (operator : Kind) (left right : Expr)
  deriving DecidableEq, Repr

/-- The text of an expression with each operator in front of its operands.  A
leaf is written as its text, whatever its kind. -/
def Expr.render : Expr → String
  | .literal token => token.lexeme
  | .binary operator left right =>
      "(" ++ operator.name ++ " " ++ left.render ++ " " ++ right.render ++ ")"

end LineCalculator
