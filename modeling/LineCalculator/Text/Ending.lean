/-!
# Line endings

A line ends with a newline, and a carriage return right in front of the
newline belongs to the ending.
-/

namespace LineCalculator

/-- A line without its ending.  A carriage return that no newline follows is
text, and of several only the last belongs to the ending. -/
def stripEnding (line : String) : String :=
  match line.toList.reverse with
  | '\n' :: '\r' :: text => String.ofList text.reverse
  | '\n' :: text => String.ofList text.reverse
  | _ => line

/-- The first line, without its ending, of a text that is itself ended by a
newline. -/
def firstLine (text : String) : String :=
  stripEnding (String.ofList (text.toList.takeWhile (· ≠ '\n') ++ ['\n']))

end LineCalculator
