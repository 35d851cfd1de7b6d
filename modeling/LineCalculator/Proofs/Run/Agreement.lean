import LineCalculator.Proofs.Command.Acceptance
import LineCalculator.Proofs.Session.Transcript
import LineCalculator.Proofs.Token.Concatenation
import Mathlib.Tactic

/-!
# One expression and a session of one line

An expression can be given as an argument or as a line of a session.  The
session may see less of it, since a carriage return in front of the newline
belongs to the ending of the line.  Both answer with the same text all the
same: a carriage return is a blank, and blanks at the end of a line change
nothing.
-/

namespace LineCalculator

theorem Line.response_append_blanks (showTree : Bool) (source : String)
    {blanks : String} (hblanks : ∀ c ∈ blanks.toList, isBlank c = true) :
    Line.response showTree (source ++ blanks) = Line.response showTree source := by
  have hscan : Scan.ofString (source ++ blanks) = Scan.ofString source := by
    rw [Scan.ofString, Cursor.start, String.toList_append]
    exact Cursor.scan_append_blanks 0 source.toList hblanks
  simp only [Line.response, Line.value, Line.expr, Line.tokens, hscan]

theorem exists_reads_line {line : String} (hnewline : '\n' ∉ line.toList) :
    ∃ text, Reads (utf8 (line ++ "\n")) [text] .ended ∧
      ∀ showTree, Line.response showTree text = Line.response showTree line := by
  have hblank : isBlank '\r' = true := by decide
  have hreturn : ∀ c ∈ "\r".toList, isBlank c = true := by simpa using hblank
  obtain ⟨text, htext, hreads⟩ := Reads.cons_line hnewline .nothing
  rw [← utf8_newline, ← utf8_append] at hreads
  refine ⟨text, hreads, ?_⟩
  intro showTree
  rcases htext with rfl | rfl
  · rfl
  · rw [Line.response_append_blanks showTree text hreturn]

/-! ## Runs without records and prompts -/

theorem Output.records_none (events : List Event) :
    Output.records none events = [] := by
  simp [Output.records, Threshold.admits]

theorem Session.reply_none (showTree prompts : Bool) (text : String) :
    Session.reply ⟨showTree, none, prompts⟩ text =
      [.print (Line.reply showTree text ++ "\n")] := by
  rw [reply_eq_records, Output.records_none, List.nil_append]

theorem answer_none (showTree : Bool) (expression : String) :
    answer none showTree expression =
        ⟨0, [.print (Line.reply showTree expression ++ "\n")]⟩ ∨
      answer none showTree expression =
        ⟨1, [.complain (Line.reply showTree expression ++ "\n")]⟩ := by
  cases houtcome : (Line.response showTree expression).outcome with
  | ok text => simp [answer, Line.reply, houtcome, Output.records_none]
  | error fault => simp [answer, Line.reply, houtcome, Output.records_none]

/-- A run with the expression as its argument. -/
def runOnce (showTree : Bool) (expression : String) (input : List UInt8) :
    Report :=
  run ⟨none, false⟩ (CommandLine.canonical showTree (some expression)) input

/-- A session with the expression as its only line. -/
def runLine (showTree : Bool) (expression : String) : Report :=
  run ⟨none, false⟩ (CommandLine.canonical showTree none)
    (utf8 (expression ++ "\n"))

theorem runOnce_eq (showTree : Bool) (expression : String)
    (input : List UInt8) :
    runOnce showTree expression input = answer none showTree expression := by
  rw [runOnce, run, Request.ofArguments_of_gather (Arguments.gather_canonical _ _)]
  rfl

theorem runLine_eq (showTree : Bool) {expression : String}
    (hnewline : '\n' ∉ expression.toList) :
    runLine showTree expression =
      ⟨0, [.print banner, .print (Line.reply showTree expression ++ "\n"),
        .print farewell]⟩ := by
  obtain ⟨text, hreads, hresponse⟩ := exists_reads_line hnewline
  have hreply : Line.reply showTree text = Line.reply showTree expression := by
    rw [Line.reply, Line.reply, hresponse]
  rw [runLine, run, Request.ofArguments_of_gather (Arguments.gather_canonical _ _)]
  change Session.run ⟨showTree, none, false⟩ _ = _
  rw [Session.run_eq_of_reads _ hreads]
  simp [Session.outputs, Session.prompt, Session.reply_none, Stop.outputs,
    Stop.exit, hreply]

/-- The reply of a session to its only line is what a run with that line as its
expression writes: to standard output if it succeeds, and otherwise to standard
error. -/
theorem runOnce_agrees_with_runLine (showTree : Bool) (expression : String)
    (hnewline : '\n' ∉ expression.toList) :
    ∃ reply : String,
      ((runLine showTree expression).exit = 0 ∧
        (runLine showTree expression).stderr = "" ∧
        (runLine showTree expression).stdout =
          "Simple arithmetic\n" ++ reply ++ "Goodbye!\n") ∧
      (∀ input,
        (runOnce showTree expression input).exit = 0 ∧
            (runOnce showTree expression input).stdout = reply ∧
            (runOnce showTree expression input).stderr = "" ∨
          (runOnce showTree expression input).exit = 1 ∧
            (runOnce showTree expression input).stdout = "" ∧
            (runOnce showTree expression input).stderr = reply) ∧
      ∀ input other,
        runOnce showTree expression input = runOnce showTree expression other := by
  refine ⟨Line.reply showTree expression ++ "\n", ?_, ?_, ?_⟩
  · simp [runLine_eq showTree hnewline, Report.stdout, Report.stderr,
      Output.stdout, Output.stderr, banner, farewell, String.append_assoc]
  · intro input
    rw [runOnce_eq]
    rcases answer_none showTree expression with hanswer | hanswer
    · left
      simp [hanswer, Report.stdout, Report.stderr, Output.stdout, Output.stderr]
    · right
      simp [hanswer, Report.stdout, Report.stderr, Output.stdout, Output.stderr]
  · intro input other
    rw [runOnce_eq, runOnce_eq]

/-- The session reads this line without its last character. -/
theorem runOnce_agrees_with_runLine_return :
    (runLine false "1 &\r").stdout =
      "Simple arithmetic\n" ++
        ("Error, " ++ (Fault.foreign '&').message ++ "\n") ++ "Goodbye!\n" := by
  have houtcome : (Line.response false "1 &\r").outcome =
      .error (.foreign '&') := by cbv
  have honce : runOnce false "1 &\r" [] =
      ⟨1, [.complain ("Error, " ++ (Fault.foreign '&').message ++ "\n")]⟩ := by
    simp only [runOnce_eq, answer, houtcome, Output.records_none,
      List.nil_append]
  obtain ⟨reply, hline, hreply, _⟩ :=
    runOnce_agrees_with_runLine false "1 &\r" (by decide)
  rcases hreply [] with hsuccess | hfailure
  · simp [honce] at hsuccess
  · rw [hline.2.2, ← hfailure.2.2, honce]
    simp [Report.stderr, Output.stderr]

end LineCalculator
