import LineCalculator.Proofs.Line.Reply
import LineCalculator.Proofs.Session.Input
import Mathlib.Tactic

/-!
# The transcript of a session

What a session writes to standard output is put together from its lines: each
has a reply that depends on the line and on nothing else, and the prompt, if
there is one, is written before every reading.

`Session.turns_eq_of_reads` follows a session along the lines of its input, one
turn for each; the prompt of the last turn is not followed by a reply.
Everything about the text of a session is derived from it.
-/

namespace LineCalculator

namespace Session

def promptText (session : Session) : String :=
  if session.prompts then ">>> " else ""

/-- What the turns over these lines write. -/
def transcript (session : Session) (texts : List String) : String :=
  String.join (texts.map fun text =>
    session.promptText ++ Line.reply session.showTree text ++ "\n")

end Session

def Stop.farewell : Stop → String
  | .ended => "Goodbye!\n"
  | .undecodable => ""

def Stop.exit : Stop → Nat
  | .ended => 0
  | .undecodable => 1

/-- What a session writes last. -/
def Stop.outputs : Stop → List Output
  | .ended => [.print LineCalculator.farewell]
  | .undecodable => [.complain LineCalculator.undecodable]

/-- What a session over these lines writes behind its banner. -/
def Session.outputs (session : Session) (texts : List String) (stop : Stop) :
    List Output :=
  texts.flatMap (fun text => session.prompt ++ session.reply text) ++
    (session.prompt ++ stop.outputs)

/-! ## The text of outputs -/

theorem Output.stdout_records (threshold : Threshold) (events : List Event) :
    String.join ((Output.records threshold events).map Output.stdout) = "" := by
  unfold Output.records
  induction events.filter fun event => threshold.admits event.level with
  | nil => rfl
  | cons event events ih =>
      rw [List.map_cons, List.map_cons, String.join_cons, ih]
      rfl

namespace Session

variable {session : Session}

theorem stdout_prompt (session : Session) :
    String.join (session.prompt.map Output.stdout) = session.promptText := by
  unfold prompt promptText
  split
  · rfl
  · rfl

/-- What a session records of a line: a rejection comes last. -/
def lineEvents (showTree : Bool) (text : String) : List Event :=
  (Line.response showTree text).events ++
    match (Line.response showTree text).outcome with
    | .ok _ => []
    | .error fault => [.rejected text fault]

theorem reply_eq_records (session : Session) (text : String) :
    session.reply text =
      Output.records session.threshold (lineEvents session.showTree text) ++
        [.print (Line.reply session.showTree text ++ "\n")] := by
  cases houtcome : (Line.response session.showTree text).outcome with
  | ok answer => simp [reply, lineEvents, Line.reply, houtcome]
  | error fault => simp [reply, lineEvents, Line.reply, houtcome]

theorem stdout_reply (session : Session) (text : String) :
    String.join ((session.reply text).map Output.stdout) =
      Line.reply session.showTree text ++ "\n" := by
  rw [reply_eq_records, List.map_append, String.join_append,
    Output.stdout_records]
  simp [Output.stdout]

/-! ## Turns -/

theorem turn_of_text (session : Session) {line : List UInt8} {text : String}
    (hne : line ≠ []) (htext : decodeLine? line = some text) :
    session.turn line = ⟨session.reply text, none⟩ := by
  unfold turn
  split
  · contradiction
  · simp [htext]

theorem turn_of_undecodable (session : Session) {line : List UInt8}
    (hne : line ≠ []) (hline : decodeLine? line = none) :
    session.turn line = ⟨[.complain undecodable], some 1⟩ := by
  unfold turn
  split
  · contradiction
  · simp [hline]

theorem turns_eq_of_reads (session : Session) {input : List UInt8}
    {texts : List String} {stop : Stop} (hreads : Reads input texts stop) :
    session.turns input = ⟨stop.exit, session.outputs texts stop⟩ := by
  induction texts generalizing input with
  | nil =>
      cases stop with
      | ended =>
          have hexit : (session.turn (takeLine []).1).exit = some 0 := rfl
          rw [hreads.eq_nil_of_ended, turns_of_exit hexit]
          rfl
      | undecodable =>
          obtain ⟨hne, hline⟩ := hreads.takeLine_undecodable
          have hturn := session.turn_of_undecodable hne hline
          have hexit : (session.turn (takeLine input).1).exit = some 1 := by
            rw [hturn]
          rw [turns_of_exit hexit, hturn]
          rfl
  | cons text texts ih =>
      obtain ⟨hne, htext, hrest⟩ := hreads.takeLine_cons
      have hturn := session.turn_of_text hne htext
      have hexit : (session.turn (takeLine input).1).exit = none := by
        rw [hturn]
      rw [turns_of_continue hexit, hturn, ih hrest]
      simp [Report.after, outputs]

theorem run_eq_of_reads (session : Session) {input : List UInt8}
    {texts : List String} {stop : Stop} (hreads : Reads input texts stop) :
    session.run input =
      ⟨stop.exit, .print banner :: session.outputs texts stop⟩ := by
  rw [run, session.turns_eq_of_reads hreads]
  rfl

theorem stdout_outputs (session : Session) (texts : List String) (stop : Stop) :
    String.join ((session.outputs texts stop).map Output.stdout) =
      session.transcript texts ++ session.promptText ++ stop.farewell := by
  induction texts with
  | nil =>
      rw [outputs, List.flatMap_nil, List.nil_append, List.map_append,
        String.join_append, stdout_prompt]
      cases stop with
      | ended => simp [Stop.outputs, Stop.farewell, transcript, Output.stdout,
          farewell]
      | undecodable => simp [Stop.outputs, Stop.farewell, transcript,
          Output.stdout]
  | cons text texts ih =>
      have hcons : session.outputs (text :: texts) stop =
          session.prompt ++ (session.reply text ++ session.outputs texts stop) := by
        simp [outputs]
      rw [hcons, List.map_append, List.map_append, String.join_append,
        String.join_append, stdout_prompt, stdout_reply, ih]
      simp only [transcript, List.map_cons, String.join_cons,
        String.append_assoc]

theorem run_of_reads (session : Session) {input : List UInt8}
    {texts : List String} {stop : Stop} (hreads : Reads input texts stop) :
    (session.run input).stdout =
        "Simple arithmetic\n" ++ session.transcript texts ++
          session.promptText ++ stop.farewell ∧
      (session.run input).exit = stop.exit := by
  rw [session.run_eq_of_reads hreads]
  refine ⟨?_, rfl⟩
  rw [Report.stdout, List.map_cons, String.join_cons, stdout_outputs]
  simp only [String.append_assoc]
  rfl

theorem transcript_append (session : Session) (texts others : List String) :
    session.transcript (texts ++ others) =
      session.transcript texts ++ session.transcript others := by
  simp [transcript, String.join_append]

/-- A session answers the lines of its input in their order and each by itself,
until the input ends or a line is no UTF-8.  A session over whole lines goes on
with what follows as if it had just begun. -/
theorem run_answers_each_line (session : Session) :
    (∀ input, ∃ texts stop, Reads input texts stop) ∧
      (∀ input texts stop, Reads input texts stop →
        (session.run input).stdout =
            "Simple arithmetic\n" ++
              String.join (texts.map fun text =>
                session.promptText ++ Line.reply session.showTree text ++ "\n") ++
              session.promptText ++
              (if stop = .ended then "Goodbye!\n" else "") ∧
          (session.run input).exit = if stop = .ended then 0 else 1) ∧
      ∀ first texts, Reads first texts .ended →
        (first = [] ∨ first.getLast? = some newline) → ∀ second,
        ∃ body rest,
          (session.run first).stdout =
            body ++ session.promptText ++ "Goodbye!\n" ∧
          (session.run second).stdout = "Simple arithmetic\n" ++ rest ∧
          (session.run (first ++ second)).stdout = body ++ rest ∧
          (session.run (first ++ second)).exit = (session.run second).exit := by
  refine ⟨exists_reads, ?_, ?_⟩
  · intro input texts stop hreads
    obtain ⟨hstdout, hexit⟩ := session.run_of_reads hreads
    rw [hstdout, hexit]
    cases stop with
    | ended => exact ⟨rfl, rfl⟩
    | undecodable => exact ⟨rfl, rfl⟩
  · intro first texts hfirst hwhole second
    have hends : ∀ byte ∈ first.getLast?, byte = newline := by
      intro byte hbyte
      rcases hwhole with rfl | hlast
      · simp at hbyte
      · simpa [hlast, eq_comm] using hbyte
    obtain ⟨others, stop, hsecond⟩ := exists_reads second
    obtain ⟨hstdout, _⟩ := session.run_of_reads hfirst
    obtain ⟨hotherStdout, hotherExit⟩ := session.run_of_reads hsecond
    obtain ⟨hjoined, hjoinedExit⟩ :=
      session.run_of_reads (hfirst.append hends hsecond)
    refine ⟨"Simple arithmetic\n" ++ session.transcript texts,
      session.transcript others ++ session.promptText ++ stop.farewell,
      hstdout, ?_, ?_, ?_⟩
    · rw [hotherStdout]
      simp only [String.append_assoc]
    · rw [hjoined, transcript_append]
      simp only [String.append_assoc]
    · rw [hjoinedExit, hotherExit]

theorem run_answers_each_line_undecodable :
    (Session.run ⟨false, none, true⟩ (utf8 ("1" ++ "\n") ++ [255])).stdout =
        "Simple arithmetic\n>>> 1\n>>> " ∧
      (Session.run ⟨false, none, true⟩ (utf8 ("1" ++ "\n") ++ [255])).exit = 1 := by
  have hinvalid : ¬IsUTF8 [255] := by
    rw [← fromUTF8?_eq_none_iff]
    decide
  have hreads : Reads (utf8 ("1" ++ "\n") ++ [255]) ["1"] .undecodable :=
    .line (by decide) (by decide) (.undecodableLast (by decide) hinvalid)
  have hreply : Line.reply false "1" = "1" := by cbv
  have hrun := (run_answers_each_line ⟨false, none, true⟩).2.1 _ _ _ hreads
  simpa [promptText, hreply] using hrun

end Session

end LineCalculator
