/-!
# Tokens

A token is a kind together with the text it was read from.  The kind alone
decides what a token may do in an expression; only a number's text carries a
value.
-/

namespace LineCalculator

inductive Kind where
  | plus
  | minus
  | times
  | number
  deriving DecidableEq, Repr

namespace Kind

def name : Kind → String
  | .plus => "PLUS"
  | .minus => "MINUS"
  | .times => "MUL"
  | .number => "NUM"

def ofName? : String → Option Kind
  | "PLUS" => some .plus
  | "MINUS" => some .minus
  | "MUL" => some .times
  | "NUM" => some .number
  | _ => none

@[simp] theorem ofName?_name (kind : Kind) : ofName? kind.name = some kind := by
  cases kind <;> rfl

def ofSign? : Char → Option Kind
  | '+' => some .plus
  | '-' => some .minus
  | '*' => some .times
  | _ => none

/-- Operators that combine products into a sum. -/
def isAdditive : Kind → Bool
  | .plus | .minus => true
  | .times | .number => false

end Kind

structure Token where
  kind : Kind
  lexeme : String
  deriving DecidableEq, Repr

/-- A number is shown with its text and an operator by its name. -/
def Token.label (token : Token) : String :=
  match token.kind with
  | .number => token.kind.name ++ "(" ++ token.lexeme ++ ")"
  | kind => kind.name

end LineCalculator
