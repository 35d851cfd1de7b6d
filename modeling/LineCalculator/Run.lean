import LineCalculator.Command
import LineCalculator.Session

/-!
# A run of the program

The arguments decide what a run does: it shows help or the version, reports
its misuse, answers one expression, or holds a session over its input.
-/

namespace LineCalculator

def helpText : String :=
  "Interactive calculator for `+`, `-` and `*` over non-negative integers\n\n" ++
  "Usage: simple_calc [OPTIONS] [EXPRESSION]\n\n" ++
  "Arguments:\n" ++
  "  [EXPRESSION]  Evaluate this expression once instead of starting the prompt\n\n" ++
  "Options:\n" ++
  "  -t, --tree     Print the syntax tree of each expression before its value\n" ++
  "  -h, --help     Print help\n" ++
  "  -V, --version  Print version\n"

def versionText : String := "simple_calc 0.1.0\n"

/-- What the surroundings of a run decide. -/
structure Setting where
  threshold : Threshold
  /-- Whether sessions write a prompt before each reading. -/
  prompts : Bool
  deriving DecidableEq, Repr

/-- The answer to one expression; a failure goes to standard error. -/
def answer (threshold : Threshold) (showTree : Bool) (expression : String) :
    Report :=
  let response := Line.response showTree expression
  let records := Output.records threshold response.events
  match response.outcome with
  | .ok text => ⟨0, records ++ [.print (text ++ "\n")]⟩
  | .error fault => ⟨1, records ++ [.complain ("Error, " ++ fault.message ++ "\n")]⟩

def Request.run (setting : Setting) (input : List UInt8) : Request → Report
  | .help => ⟨0, [.print helpText]⟩
  | .version => ⟨0, [.print versionText]⟩
  | .misuse fault => ⟨2, [.complain fault.message]⟩
  | .once showTree expression => answer setting.threshold showTree expression
  | .session showTree =>
      Session.run ⟨showTree, setting.threshold, setting.prompts⟩ input

def run (setting : Setting) (args : List String) (input : List UInt8) : Report :=
  (Request.ofArguments args).run setting input

end LineCalculator
