import LineCalculator.Expr.Basic
import LineCalculator.Fault

/-!
# The value of an expression

Values are words of 64 bits, read as signed integers.  Arithmetic wraps
around, and so does the reading of a literal: a literal may have any number of
digits.
-/

namespace LineCalculator

def digit? (c : Char) : Option Int64 :=
  if c.isDigit then some (Int64.ofNat (c.toNat - '0'.toNat)) else none

/-- Reads one more digit behind those that gave `value`. -/
def appendDigit (value : Int64) (c : Char) : Option Int64 :=
  (digit? c).map fun digit => value * 10 + digit

def readDecimal (lexeme : String) : Except ValueFault Int64 :=
  if lexeme = "" then .error .emptyLiteral
  else
    match lexeme.toList.foldlM appendDigit 0 with
    | some value => .ok value
    | none => .error (.notDecimal lexeme)

/-- The decimal text of a value: no leading zeros, and a sign only in front of
a negative one. -/
def decimal (value : Int64) : String :=
  match value.toInt with
  | .ofNat magnitude => magnitude.repr
  | .negSucc below => "-" ++ (below + 1).repr

def Token.value (token : Token) : Except ValueFault Int64 :=
  match token.kind with
  | .number => readDecimal token.lexeme
  | kind => .error (.notLiteral kind)

def Kind.apply (operator : Kind) (left right : Int64) : Except ValueFault Int64 :=
  match operator with
  | .plus => .ok (left + right)
  | .minus => .ok (left - right)
  | .times => .ok (left * right)
  | .number => .error (.notOperator .number)

/-- The operands are evaluated from left to right and the operator is applied
last; the first fault on that way is the result. -/
def Expr.value : Expr → Except ValueFault Int64
  | .literal token => token.value
  | .binary operator left right => do
      let leftValue ← left.value
      let rightValue ← right.value
      operator.apply leftValue rightValue

end LineCalculator
