import LineCalculator.Log

/-!
# What a run writes

A run writes to standard output and to standard error and ends with an exit
code.  `Report.stdout` and `Report.stderr` are the two texts; the log goes to
standard error, among the messages there.  What is written stays in the order
in which the run wrote it.
-/

namespace LineCalculator

inductive Output where
  | print (text : String)
  | complain (text : String)
  | record (event : Event)
  deriving DecidableEq, Repr

namespace Output

def stdout : Output → String
  | .print text => text
  | .complain _ | .record _ => ""

def stderr : Output → String
  | .print _ => ""
  | .complain text => text
  | .record event => event.render

/-- The events that a threshold admits. -/
def records (threshold : Threshold) (events : List Event) : List Output :=
  (events.filter fun event => threshold.admits event.level).map .record

end Output

structure Report where
  exit : Nat
  outputs : List Output
  deriving DecidableEq, Repr

namespace Report

def stdout (report : Report) : String :=
  String.join (report.outputs.map Output.stdout)

def stderr (report : Report) : String :=
  String.join (report.outputs.map Output.stderr)

/-- The report of a run that has written `outputs` already. -/
def after (outputs : List Output) (report : Report) : Report :=
  { report with outputs := outputs ++ report.outputs }

end Report

end LineCalculator
