import LineCalculator.Line
import LineCalculator.Report
import LineCalculator.Text.Ending

/-!
# Sessions

A session answers the lines of its input one after the other.  A line that
fails is reported and the next one is read; a line whose bytes are no UTF-8
ends the session at once.

The input is a list of bytes.  `Session.turn` is what one reading leads to and
`Session.run` the whole session.  `takeLine_rest_length_lt` is the reason that a
session over a finite input ends.
-/

namespace LineCalculator

def newline : UInt8 := 10

/-- The first line of an input, its newline included, and what follows it.
The line is empty at the end of the input and nowhere else. -/
def takeLine (input : List UInt8) : List UInt8 × List UInt8 :=
  match input.dropWhile (· ≠ newline) with
  | [] => (input, [])
  | _ :: rest => (input.takeWhile (· ≠ newline) ++ [newline], rest)

theorem takeLine_rest_length_lt {input : List UInt8}
    (hline : (takeLine input).1 ≠ []) :
    (takeLine input).2.length < input.length := by
  have hsuffix :=
    (List.dropWhile_suffix (l := input) (· ≠ newline)).length_le
  unfold takeLine at hline ⊢
  split at hline
  · rename_i hdrop
    simpa [hdrop, List.length_pos_iff] using hline
  · rename_i byte rest hdrop
    simp only [hdrop, List.length_cons] at hsuffix ⊢
    omega

/-- The text of a line, if its bytes have one.  A backspace (U+0008) is text
here like any other character; a line editor takes it and the character in
front of it away, so lines that hold one are outside this model. -/
def decodeLine? (line : List UInt8) : Option String :=
  (String.fromUTF8? line.toByteArray).map stripEnding

structure Session where
  showTree : Bool
  threshold : Threshold
  /-- Whether a prompt is written before each reading. -/
  prompts : Bool
  deriving DecidableEq, Repr

/-- What one reading leads to, with the exit code if it ends the session. -/
structure Turn where
  outputs : List Output
  exit : Option Nat
  deriving DecidableEq, Repr

def banner : String := "Simple arithmetic\n"

def farewell : String := "Goodbye!\n"

def undecodable : String :=
  "Error: Io(Error \x7b kind: InvalidData, message: " ++
    quotedText "stream did not contain valid UTF-8" ++ " \x7d)\n"

namespace Session

def prompt (session : Session) : List Output :=
  if session.prompts then [.print ">>> "] else []

def reply (session : Session) (line : String) : List Output :=
  let response := Line.response session.showTree line
  match response.outcome with
  | .ok text =>
      Output.records session.threshold response.events ++ [.print (text ++ "\n")]
  | .error fault =>
      Output.records session.threshold
          (response.events ++ [.rejected line fault]) ++
        [.print ("Error, " ++ fault.message ++ "\n")]

/-- The turn after reading `line`, which is empty at the end of the input. -/
def turn (session : Session) (line : List UInt8) : Turn :=
  match line with
  | [] => ⟨[.print farewell], some 0⟩
  | _ :: _ =>
      match decodeLine? line with
      | none => ⟨[.complain undecodable], some 1⟩
      | some text => ⟨session.reply text, none⟩

theorem ne_nil_of_turn_exit_eq_none {session : Session} {line : List UInt8}
    (hexit : (session.turn line).exit = none) : line ≠ [] := by
  rintro rfl
  simp [turn] at hexit

/-- The turns of a session from some reading on. -/
def turns (session : Session) (input : List UInt8) : Report :=
  let read := takeLine input
  let turn := session.turn read.1
  let outputs := session.prompt ++ turn.outputs
  match _ : turn.exit with
  | some code => ⟨code, outputs⟩
  | none => (session.turns read.2).after outputs
termination_by input.length
decreasing_by
  exact takeLine_rest_length_lt (ne_nil_of_turn_exit_eq_none ‹_›)

theorem turns_of_exit {session : Session} {input : List UInt8} {code : Nat}
    (hexit : (session.turn (takeLine input).1).exit = some code) :
    session.turns input =
      ⟨code, session.prompt ++ (session.turn (takeLine input).1).outputs⟩ := by
  rw [turns]
  split <;> simp_all

theorem turns_of_continue {session : Session} {input : List UInt8}
    (hexit : (session.turn (takeLine input).1).exit = none) :
    session.turns input =
      (session.turns (takeLine input).2).after
        (session.prompt ++ (session.turn (takeLine input).1).outputs) := by
  rw [turns]
  split <;> simp_all

def run (session : Session) (input : List UInt8) : Report :=
  (session.turns input).after [.print banner]

end Session

end LineCalculator
