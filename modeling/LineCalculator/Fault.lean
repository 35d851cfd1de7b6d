import LineCalculator.Text.Quoted
import LineCalculator.Token.Basic

/-!
# Faults

Why a line has no value.  A fault keeps its cause; `Fault.message` is the
sentence shown to the user, and `Fault.diagnostic` the compact form written to
the log.
-/

namespace LineCalculator

/-- An expression has at most this many operators. -/
def operatorLimit : Nat := 1024

/-- Why a list of tokens is no expression. -/
inductive GrammarFault where
  /-- A number was due where this text stood, or where the tokens ended. -/
  | numberExpected (found : Option String)
  /-- The expression was complete, and this text followed it. -/
  | endExpected (found : String)
  | operatorLimitExceeded
  deriving DecidableEq, Repr

/-- Why a tree has no value. -/
inductive ValueFault where
  | emptyLiteral
  | notDecimal (lexeme : String)
  | notLiteral (kind : Kind)
  | notOperator (kind : Kind)
  deriving DecidableEq, Repr

inductive Fault where
  | foreign (c : Char)
  | grammar (cause : GrammarFault)
  | value (cause : ValueFault)
  deriving DecidableEq, Repr

/-- What the grammar allows at the place of the fault. -/
def GrammarFault.expectation : GrammarFault → String
  | .numberExpected (some found) => "a number, found '" ++ found ++ "'"
  | .numberExpected none => "a number, found end of input"
  | .endExpected found => "end of expression, found '" ++ found ++ "'"
  | .operatorLimitExceeded =>
      "an expression of at most " ++ operatorLimit.repr ++ " operators"

def ValueFault.reason : ValueFault → String
  | .emptyLiteral => "empty literal"
  | .notDecimal lexeme => "'" ++ lexeme ++ "' is not a valid number"
  | .notLiteral kind => kind.name ++ " is not a literal"
  | .notOperator kind => "unknown operator " ++ kind.name

namespace Fault

def message : Fault → String
  | .foreign c => "invalid character, '" ++ String.singleton c ++ "', encountered"
  | .grammar cause => "could not parse expression, expected " ++ cause.expectation
  | .value cause => "could not evaluate expression, " ++ cause.reason

/-- The class of a fault, as the log names it. -/
def tag : Fault → String
  | .foreign _ => "unexpected_input"
  | .grammar _ => "parse_error"
  | .value _ => "evaluation_error"

/-- What a fault says beyond its class, quoted. -/
def detail : Fault → String
  | .foreign c => quotedChar c
  | .grammar cause => quotedText cause.expectation
  | .value cause => quotedText cause.reason

def diagnostic (fault : Fault) : String :=
  fault.tag ++ "(" ++ fault.detail ++ ")"

end Fault

end LineCalculator
