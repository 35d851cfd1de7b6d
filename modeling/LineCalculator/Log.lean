import LineCalculator.Expr.Basic
import LineCalculator.Fault
import LineCalculator.Token.Cursor

/-!
# Log

What is recorded while a line is worked on.  An event has a level, and a run
keeps the events up to the level that it was started with.
-/

namespace LineCalculator

/-- The levels from the most to the least urgent. -/
inductive Level where
  | error
  | warn
  | info
  | debug
  | trace
  deriving DecidableEq, Repr

namespace Level

def rank : Level → Nat
  | .error => 1
  | .warn => 2
  | .info => 3
  | .debug => 4
  | .trace => 5

def name : Level → String
  | .error => "ERROR"
  | .warn => "WARN"
  | .info => "INFO"
  | .debug => "DEBUG"
  | .trace => "TRACE"

/-- The name of a level, filled up with blanks to the length of the longest. -/
def label (level : Level) : String :=
  level.name.pushn ' ' (5 - level.name.length)

end Level

/-- The least urgent level that is kept, if any is. -/
abbrev Threshold := Option Level

namespace Threshold

def ofName? : String → Option Threshold
  | "off" => some none
  | "error" => some (some .error)
  | "warn" => some (some .warn)
  | "info" => some (some .info)
  | "debug" => some (some .debug)
  | "trace" => some (some .trace)
  | _ => none

def admits : Threshold → Level → Bool
  | none, _ => false
  | some least, level => level.rank ≤ least.rank

end Threshold

inductive Event where
  | scanned (found : Located)
  | tokens (read : List Token)
  | tree (expr : Expr)
  | rejected (line : String) (fault : Fault)
  deriving DecidableEq, Repr

namespace Event

def level : Event → Level
  | .scanned _ => .trace
  | .tokens _ => .debug
  | .tree _ => .debug
  | .rejected _ _ => .warn

/-- The part of the program that an event is reported under. -/
def origin : Event → String
  | .scanned _ => "simple_calc::scanning"
  | .tokens _ | .tree _ | .rejected _ _ => "simple_calc::repl"

def message : Event → String
  | .scanned found =>
      "scanned " ++ found.token.label ++ " at offset " ++ found.offset.repr
  | .tokens read =>
      "tokens: [" ++
        ", ".intercalate (read.map fun token => quotedText token.label) ++ "]"
  | .tree expr => "tree: " ++ expr.render
  | .rejected line fault => quotedText line ++ " rejected: " ++ fault.diagnostic

def render (event : Event) : String :=
  "[" ++ event.level.label ++ " " ++ event.origin ++ "] " ++ event.message ++ "\n"

end Event

end LineCalculator
