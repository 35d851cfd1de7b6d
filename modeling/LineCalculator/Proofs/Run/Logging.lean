import LineCalculator.Proofs.Command.Acceptance
import LineCalculator.Proofs.Fault.Message
import LineCalculator.Proofs.Line.Records
import LineCalculator.Proofs.Session.Transcript
import LineCalculator.Proofs.Text.Quoted
import Mathlib.Tactic

/-!
# What a log level changes

A run does the same work at every log level.  `run_eq_limit` says that it
writes what the run at the level of traces writes, without the records that
its own level leaves out; exit code and standard output are the same for that
reason, and so are the messages on standard error.

The records themselves follow the lines.  Each line leaves its own, and a
session adds one to those of a line that it rejects.  `rejection` is that
record.  It names the line and the fault: both can be read off its message, and
the message is one line of the log whatever the line holds.
-/

namespace LineCalculator

/-! ## Records on standard error -/

/-- How a record begins in the log: its level, and the module that it is from.
Only scanners leave traces. -/
def Level.heading : Level → String
  | .error => "[ERROR simple_calc::repl] "
  | .warn => "[WARN  simple_calc::repl] "
  | .info => "[INFO  simple_calc::repl] "
  | .debug => "[DEBUG simple_calc::repl] "
  | .trace => "[TRACE simple_calc::scanning] "

def logLine (record : Level × String) : String :=
  record.1.heading ++ record.2 ++ "\n"

theorem Event.render_eq_logLine (event : Event) :
    event.render = logLine event.record := by
  have hheading : "[" ++ event.level.label ++ " " ++ event.origin ++ "] " =
      event.level.heading := by
    cases event <;> cbv
  rw [render, hheading]
  rfl

namespace Threshold

/-- The levels that a threshold keeps. -/
def levels : Threshold → List Level
  | none => []
  | some .error => [.error]
  | some .warn => [.error, .warn]
  | some .info => [.error, .warn, .info]
  | some .debug => [.error, .warn, .info, .debug]
  | some .trace => [.error, .warn, .info, .debug, .trace]

theorem admits_eq_mem_levels (threshold : Threshold) (level : Level) :
    threshold.admits level = decide (level ∈ threshold.levels) := by
  cases threshold with
  | none => cases level <;> rfl
  | some least => cases least <;> cases level <;> rfl

/-- The part of a log that a threshold keeps. -/
def log (threshold : Threshold) (records : List (Level × String)) : String :=
  String.join ((records.filter fun record => record.1 ∈ threshold.levels).map logLine)

theorem log_append (threshold : Threshold) (first second : List (Level × String)) :
    threshold.log (first ++ second) = threshold.log first ++ threshold.log second := by
  simp [log, String.join_append]

end Threshold

namespace Output

def record? : Output → Option (Level × String)
  | .record event => some event.record
  | .print _ | .complain _ => none

/-- What an output is on standard error. -/
def errorText : Output → String
  | .print _ => ""
  | .complain text => text
  | .record event => logLine event.record

theorem stderr_eq_errorText (output : Output) :
    output.stderr = output.errorText := by
  cases output with
  | print text => rfl
  | complain text => rfl
  | record event => exact event.render_eq_logLine

theorem stderr_records (threshold : Threshold) (events : List Event) :
    String.join ((records threshold events).map stderr) =
      threshold.log (events.map Event.record) := by
  have hkept : (fun event : Event => threshold.admits event.level) =
      (fun record => decide (record.1 ∈ threshold.levels)) ∘ Event.record := by
    funext event
    exact threshold.admits_eq_mem_levels event.level
  have hlines : stderr ∘ record = logLine ∘ Event.record := by
    funext event
    exact event.render_eq_logLine
  rw [records, Threshold.log, List.filter_map, List.map_map, List.map_map, hkept,
    hlines]

end Output

/-! ## Rejected lines -/

/-- The record of a line that a session rejects. -/
def rejection (line : String) (fault : Fault) : Level × String :=
  (.warn, quotedText line ++ " rejected: " ++
    match fault with
    | .foreign c => "unexpected_input(" ++ quotedChar c ++ ")"
    | .grammar cause => "parse_error(" ++ quotedText cause.expectation ++ ")"
    | .value cause => "evaluation_error(" ++ quotedText cause.reason ++ ")")

theorem record_rejected (line : String) (fault : Fault) :
    (Event.rejected line fault).record = rejection line fault := by
  cases fault <;> rfl

theorem newline_not_mem_rejection (line : String) (fault : Fault) :
    '\n' ∉ (rejection line fault).2.toList := by
  have hline := newline_not_mem_quotedText line
  cases fault with
  | foreign c => simp [rejection, hline, newline_not_mem_quotedChar]
  | grammar cause => simp [rejection, hline, newline_not_mem_quotedText]
  | value cause => simp [rejection, hline, newline_not_mem_quotedText]

/-- The message of a rejection names the line and the fault. -/
theorem rejection_inj {line other : String} {fault otherFault : Fault}
    (hmessage : (rejection line fault).2 = (rejection other otherFault).2) :
    line = other ∧ fault = otherFault := by
  have hchars := congrArg String.toList hmessage
  simp only [rejection, String.toList_append, List.append_assoc] at hchars
  obtain ⟨rfl, hbehind⟩ := quotedText_append_inj hchars
  refine ⟨rfl, ?_⟩
  rw [List.append_right_inj] at hbehind
  cases fault with
  | foreign c =>
      cases otherFault with
      | foreign d =>
          simp only [String.toList_append, List.append_assoc,
            List.append_right_inj] at hbehind
          rw [(quotedChar_append_inj hbehind).1]
      | grammar cause => simp at hbehind
      | value cause => simp at hbehind
  | grammar cause =>
      cases otherFault with
      | foreign d => simp at hbehind
      | grammar otherCause =>
          simp only [String.toList_append, List.append_assoc,
            List.append_right_inj] at hbehind
          rw [GrammarFault.expectation_injective (quotedText_append_inj hbehind).1]
      | value otherCause => simp at hbehind
  | value cause =>
      cases otherFault with
      | foreign d => simp at hbehind
      | grammar otherCause => simp at hbehind
      | value otherCause =>
          simp only [String.toList_append, List.append_assoc,
            List.append_right_inj] at hbehind
          rw [ValueFault.reason_injective (quotedText_append_inj hbehind).1]

/-- What a session records of a line. -/
def Line.records (showTree : Bool) (text : String) : List (Level × String) :=
  (Line.response showTree text).events.map Event.record ++
    match (Line.response showTree text).outcome with
    | .ok _ => []
    | .error fault => [rejection text fault]

/-! ## Leaving out records -/

/-- Whether an output is written by a run with this threshold. -/
def Threshold.keeps (threshold : Threshold) : Output → Bool
  | .record event => event.level ∈ threshold.levels
  | .print _ | .complain _ => true

namespace Report

/-- The records of a report, in the order in which they were written. -/
def records (report : Report) : List (Level × String) :=
  report.outputs.filterMap Output.record?

/-- A report without the records below the threshold. -/
def limit (threshold : Threshold) (report : Report) : Report :=
  { report with outputs := report.outputs.filter threshold.keeps }

theorem stderr_eq_join_errorText (report : Report) :
    report.stderr = String.join (report.outputs.map Output.errorText) := by
  rw [stderr, funext Output.stderr_eq_errorText]

theorem stdout_limit (threshold : Threshold) (report : Report) :
    (report.limit threshold).stdout = report.stdout := by
  rcases report with ⟨exit, outputs⟩
  simp only [stdout, limit]
  induction outputs with
  | nil => rfl
  | cons output outputs ih =>
      cases hkeeps : threshold.keeps output with
      | true =>
          rw [List.filter_cons_of_pos hkeeps, List.map_cons, List.map_cons,
            String.join_cons, String.join_cons, ih]
      | false =>
          have hsilent : output.stdout = "" := by
            cases output with
            | record event => rfl
            | print text => simp [Threshold.keeps] at hkeeps
            | complain text => simp [Threshold.keeps] at hkeeps
          rw [List.filter_cons_of_neg (by simp [hkeeps]), List.map_cons,
            String.join_cons, ih, hsilent, String.empty_append]

theorem outputs_limit_none (threshold : Threshold) (report : Report) :
    (report.limit none).outputs =
      (report.limit threshold).outputs.filter fun output =>
        output.record? = none := by
  simp only [limit, List.filter_filter]
  congr 1
  funext output
  cases output <;> simp [Threshold.keeps, Threshold.levels, Output.record?]

end Report

namespace Output

theorem records_trace (events : List Event) :
    records (some .trace) events = events.map .record := by
  have hall : ∀ event ∈ events,
      Threshold.admits (some .trace) event.level = true := by
    intro event _
    cases event <;> rfl
  rw [records, List.filter_eq_self.mpr hall]

theorem filter_keeps_records (threshold : Threshold) (events : List Event) :
    (records (some .trace) events).filter threshold.keeps =
      records threshold events := by
  have hkeeps : threshold.keeps ∘ record =
      fun event => threshold.admits event.level := by
    funext event
    exact (threshold.admits_eq_mem_levels event.level).symm
  rw [records_trace, List.filter_map, hkeeps, records]

theorem filterMap_record?_records (events : List Event) :
    (records (some .trace) events).filterMap record? = events.map Event.record := by
  have hrecord : record? ∘ record = some ∘ Event.record := rfl
  rw [records_trace, List.filterMap_map, hrecord, List.filterMap_eq_map]

end Output

/-! ## Sessions -/

/-- What a session writes to standard error when it stops. -/
def Stop.complaint : Stop → String
  | .ended => ""
  | .undecodable =>
      "Error: Io(Error \x7b kind: InvalidData, " ++
        "message: \"stream did not contain valid UTF-8\" \x7d)\n"

theorem Stop.stderr_outputs (stop : Stop) :
    String.join (stop.outputs.map Output.stderr) = stop.complaint := by
  have htext : LineCalculator.undecodable = complaint .undecodable := by
    decide +kernel
  cases stop with
  | ended => rfl
  | undecodable => simp [outputs, Output.stderr, htext]

namespace Session

theorem stderr_prompt (session : Session) :
    String.join (session.prompt.map Output.stderr) = "" := by
  unfold prompt
  split
  · rfl
  · rfl

theorem map_record_lineEvents (showTree : Bool) (text : String) :
    (lineEvents showTree text).map Event.record = Line.records showTree text := by
  rw [lineEvents, Line.records, List.map_append]
  cases (Line.response showTree text).outcome with
  | ok answer => rfl
  | error fault => simp [record_rejected]

theorem stderr_reply (session : Session) (text : String) :
    String.join ((session.reply text).map Output.stderr) =
      session.threshold.log (Line.records session.showTree text) := by
  rw [reply_eq_records, List.map_append, String.join_append,
    Output.stderr_records, map_record_lineEvents]
  simp [Output.stderr]

theorem stderr_outputs (session : Session) (texts : List String) (stop : Stop) :
    String.join ((session.outputs texts stop).map Output.stderr) =
      session.threshold.log (texts.flatMap (Line.records session.showTree)) ++
        stop.complaint := by
  induction texts with
  | nil =>
      rw [outputs, List.flatMap_nil, List.flatMap_nil, List.nil_append,
        List.map_append, String.join_append, stderr_prompt, stop.stderr_outputs]
      rfl
  | cons text texts ih =>
      have hcons : session.outputs (text :: texts) stop =
          session.prompt ++ (session.reply text ++ session.outputs texts stop) := by
        simp [outputs]
      rw [hcons, List.map_append, List.map_append, String.join_append,
        String.join_append, stderr_prompt, stderr_reply, ih, List.flatMap_cons,
        Threshold.log_append, String.empty_append, String.append_assoc]

theorem stderr_run_of_reads (session : Session) {input : List UInt8}
    {texts : List String} {stop : Stop} (hreads : Reads input texts stop) :
    (session.run input).stderr =
      session.threshold.log (texts.flatMap (Line.records session.showTree)) ++
        stop.complaint := by
  rw [session.run_eq_of_reads hreads, Report.stderr, List.map_cons,
    String.join_cons, stderr_outputs]
  exact String.empty_append

variable (showTree prompts : Bool) (threshold : Threshold)

theorem filter_keeps_reply (text : String) :
    (reply ⟨showTree, some .trace, prompts⟩ text).filter threshold.keeps =
      reply ⟨showTree, threshold, prompts⟩ text := by
  rw [reply_eq_records, reply_eq_records, List.filter_append,
    Output.filter_keeps_records]
  rfl

theorem filter_keeps_prompt :
    (prompt ⟨showTree, some .trace, prompts⟩).filter threshold.keeps =
      prompt ⟨showTree, threshold, prompts⟩ := by
  cases prompts <;> rfl

theorem filter_keeps_outputs (texts : List String) (stop : Stop) :
    (outputs ⟨showTree, some .trace, prompts⟩ texts stop).filter threshold.keeps =
      outputs ⟨showTree, threshold, prompts⟩ texts stop := by
  have hstop : stop.outputs.filter threshold.keeps = stop.outputs := by
    cases stop <;> rfl
  simp only [outputs, List.filter_append, List.filter_flatMap,
    filter_keeps_prompt, filter_keeps_reply, hstop]

theorem run_eq_limit (input : List UInt8) :
    run ⟨showTree, threshold, prompts⟩ input =
      (run ⟨showTree, some .trace, prompts⟩ input).limit threshold := by
  obtain ⟨texts, stop, hreads⟩ := exists_reads input
  rw [run_eq_of_reads _ hreads, run_eq_of_reads _ hreads, Report.limit,
    List.filter_cons_of_pos rfl, filter_keeps_outputs]

theorem records_reply (text : String) :
    (reply ⟨showTree, some .trace, prompts⟩ text).filterMap Output.record? =
      Line.records showTree text := by
  rw [reply_eq_records, List.filterMap_append, Output.filterMap_record?_records,
    map_record_lineEvents]
  exact List.append_nil _

theorem records_run_of_reads {input : List UInt8} {texts : List String}
    {stop : Stop} (hreads : Reads input texts stop) :
    (run ⟨showTree, some .trace, prompts⟩ input).records =
      texts.flatMap (Line.records showTree) := by
  have hprompt : (prompt ⟨showTree, some .trace, prompts⟩).filterMap
      Output.record? = [] := by
    cases prompts <;> rfl
  have hstop : stop.outputs.filterMap Output.record? = [] := by
    cases stop <;> rfl
  rw [run_eq_of_reads _ hreads, Report.records, List.filterMap_cons_none rfl]
  simp only [outputs, List.filterMap_append, List.filterMap_flatMap, hprompt,
    records_reply, hstop, List.nil_append, List.append_nil]

end Session

/-! ## Runs -/

theorem answer_eq_limit (threshold : Threshold) (showTree : Bool)
    (expression : String) :
    answer threshold showTree expression =
      (answer (some .trace) showTree expression).limit threshold := by
  cases houtcome : (Line.response showTree expression).outcome with
  | ok text =>
      simp only [answer, houtcome, Report.limit, List.filter_append,
        Output.filter_keeps_records]
      rfl
  | error fault =>
      simp only [answer, houtcome, Report.limit, List.filter_append,
        Output.filter_keeps_records]
      rfl

theorem records_answer (showTree : Bool) (expression : String) :
    (answer (some .trace) showTree expression).records =
      (Line.response showTree expression).events.map Event.record := by
  cases houtcome : (Line.response showTree expression).outcome with
  | ok text =>
      simp only [answer, houtcome, Report.records, List.filterMap_append,
        Output.filterMap_record?_records]
      simp [Output.record?]
  | error fault =>
      simp only [answer, houtcome, Report.records, List.filterMap_append,
        Output.filterMap_record?_records]
      simp [Output.record?]

theorem stderr_answer (threshold : Threshold) (showTree : Bool)
    (expression : String) :
    (answer threshold showTree expression).stderr =
      threshold.log ((Line.response showTree expression).events.map Event.record) ++
        match (Line.response showTree expression).outcome with
        | .ok _ => ""
        | .error fault => "Error, " ++ fault.message ++ "\n" := by
  cases houtcome : (Line.response showTree expression).outcome with
  | ok text =>
      simp only [answer, houtcome, Report.stderr, List.map_append,
        String.join_append, Output.stderr_records]
      rfl
  | error fault =>
      simp only [answer, houtcome, Report.stderr, List.map_append,
        String.join_append, Output.stderr_records]
      simp [Output.stderr]

theorem run_eq_limit (threshold : Threshold) (prompts : Bool)
    (args : List String) (input : List UInt8) :
    run ⟨threshold, prompts⟩ args input =
      (run ⟨some .trace, prompts⟩ args input).limit threshold := by
  unfold run
  cases Request.ofArguments args with
  | help => rfl
  | version => rfl
  | misuse fault => rfl
  | once showTree expression =>
      exact answer_eq_limit threshold showTree expression
  | session showTree =>
      exact Session.run_eq_limit showTree prompts threshold input

theorem records_run_of_isFinal {args : List String} (prompts : Bool)
    (input : List UInt8) (hfinal : (Request.ofArguments args).isFinal = true) :
    (run ⟨some .trace, prompts⟩ args input).records = [] := by
  unfold run
  cases hrequest : Request.ofArguments args with
  | help => rfl
  | version => rfl
  | misuse fault => rfl
  | once showTree expression => simp [hrequest, Request.isFinal] at hfinal
  | session showTree => simp [hrequest, Request.isFinal] at hfinal

/-- A log level decides which records a run writes, and nothing else.  All of
them together are those of the lines in their order, each followed by one
warning, which names the line and its fault, if a session rejects it. -/
theorem run_logging_adds_records (threshold : Threshold) (prompts : Bool)
    (args : List String) (input : List UInt8) :
    ((run ⟨threshold, prompts⟩ args input).exit =
        (run ⟨none, prompts⟩ args input).exit ∧
      (run ⟨threshold, prompts⟩ args input).stdout =
        (run ⟨none, prompts⟩ args input).stdout ∧
      run ⟨threshold, prompts⟩ args input =
        (run ⟨some .trace, prompts⟩ args input).limit threshold ∧
      (run ⟨threshold, prompts⟩ args input).stderr =
        String.join
          ((run ⟨threshold, prompts⟩ args input).outputs.map Output.errorText) ∧
      (run ⟨none, prompts⟩ args input).stderr =
        String.join (((run ⟨threshold, prompts⟩ args input).outputs.filter
          fun output => output.record? = none).map Output.errorText)) ∧
      (∀ showTree, Request.ofArguments args = .session showTree →
        (∃ texts stop, Reads input texts stop) ∧
          ∀ texts stop, Reads input texts stop →
            (run ⟨some .trace, prompts⟩ args input).records =
                texts.flatMap (Line.records showTree) ∧
              (run ⟨threshold, prompts⟩ args input).stderr =
                threshold.log (texts.flatMap (Line.records showTree)) ++
                  stop.complaint) ∧
      (∀ showTree expression,
        Request.ofArguments args = .once showTree expression →
        (run ⟨some .trace, prompts⟩ args input).records =
            (Line.response showTree expression).events.map Event.record ∧
          (∀ record ∈ (run ⟨some .trace, prompts⟩ args input).records,
            record.1 ≠ .warn) ∧
          (run ⟨threshold, prompts⟩ args input).stderr =
            threshold.log
                ((Line.response showTree expression).events.map Event.record) ++
              match (Line.response showTree expression).outcome with
              | .ok _ => ""
              | .error fault => "Error, " ++ fault.message ++ "\n") ∧
      ((Request.ofArguments args).isFinal = true →
        (run ⟨some .trace, prompts⟩ args input).records = []) ∧
      (∀ showTree text, ∀ event ∈ (Line.response showTree text).events,
        event.level = .trace ∨ event.level = .debug) ∧
      ∀ line fault, '\n' ∉ (rejection line fault).2.toList ∧
        ∀ other otherFault,
          (rejection line fault).2 = (rejection other otherFault).2 →
          line = other ∧ fault = otherFault := by
  refine ⟨⟨?_, ?_, ?_, ?_, ?_⟩, ?_, ?_, ?_, ?_, ?_⟩
  · rw [run_eq_limit threshold, run_eq_limit none]
    rfl
  · rw [run_eq_limit threshold, run_eq_limit none, Report.stdout_limit,
      Report.stdout_limit]
  · exact run_eq_limit threshold prompts args input
  · exact Report.stderr_eq_join_errorText _
  · rw [run_eq_limit threshold, run_eq_limit none,
      Report.stderr_eq_join_errorText, Report.outputs_limit_none threshold]
  · intro showTree hrequest
    refine ⟨exists_reads input, ?_⟩
    intro texts stop hreads
    rw [run, run, hrequest]
    exact ⟨Session.records_run_of_reads showTree prompts hreads,
      Session.stderr_run_of_reads ⟨showTree, threshold, prompts⟩ hreads⟩
  · intro showTree expression hrequest
    have hrecords : (run ⟨some .trace, prompts⟩ args input).records =
        (Line.response showTree expression).events.map Event.record := by
      rw [run, hrequest]
      exact records_answer showTree expression
    refine ⟨hrecords, ?_, ?_⟩
    · intro record hrecord
      rw [hrecords, List.mem_map] at hrecord
      obtain ⟨event, hevent, rfl⟩ := hrecord
      rcases Line.level_of_mem_events hevent with hlevel | hlevel
      · simp [Event.record, hlevel]
      · simp [Event.record, hlevel]
    · rw [run, hrequest]
      exact stderr_answer threshold showTree expression
  · exact records_run_of_isFinal prompts input
  · intro showTree text event hevent
    exact Line.level_of_mem_events hevent
  · intro line fault
    refine ⟨newline_not_mem_rejection line fault, ?_⟩
    intro other otherFault hmessage
    exact rejection_inj hmessage

/-- A session warns about the line that it rejects, with the no-break space by
its number; asked for the same line as an expression, a run does not. -/
theorem run_logging_adds_records_rejected :
    (run ⟨some .warn, false⟩ [] (utf8 ("\u00a01&" ++ "\n") ++ [])).stderr =
        "[WARN  simple_calc::repl] \"\\u\x7ba0\x7d1&\" rejected: " ++
          "unexpected_input('&')\n" ∧
      (run ⟨some .trace, false⟩ ["\u00a01&"] []).stderr =
        "[TRACE simple_calc::scanning] scanned NUM(1) at offset 2\n" ++
          "Error, invalid character, '&', encountered\n" ∧
      (run ⟨some .trace, false⟩ ["\u00a01&", "-h"] []).records = [] := by
  have hreads : Reads (utf8 ("\u00a01&" ++ "\n") ++ []) ["\u00a01&"] .ended :=
    .line (by decide) (by decide) .nothing
  refine ⟨?_, ?_, ?_⟩
  · rw [((run_logging_adds_records (some .warn) false [] _).2.1 false rfl).2 _ _
      hreads |>.2]
    decide +kernel
  · rw [((run_logging_adds_records (some .trace) false ["\u00a01&"] []).2.2.1
      false "\u00a01&" rfl).2.2]
    decide +kernel
  · exact (run_logging_adds_records none false ["\u00a01&", "-h"] []).2.2.2.1 rfl

end LineCalculator
