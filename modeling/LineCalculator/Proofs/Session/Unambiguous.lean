import LineCalculator.Proofs.Session.Transcript
import Mathlib.Tactic

/-!
# What a transcript tells

From what a session has written one can tell how many lines it has read and
what came of each.  Replies are read off the transcript one after the other;
none of them begins like the farewell, so one can also tell where they end.
-/

namespace LineCalculator

theorem exists_reads_utf8 (input : String) :
    ∃ texts, Reads (utf8 input) texts .ended := by
  obtain ⟨texts, stop, hreads⟩ := exists_reads (utf8 input)
  have hended := hreads.stop_eq_ended_of_isUTF8 ⟨input, rfl⟩
  subst hended
  exact ⟨texts, hreads⟩

namespace Line

theorem farewell_ne_reply_append (showTree : Bool) (line : String)
    (rest : List Char) :
    farewell.toList ≠ (Line.reply showTree line).toList ++ rest := by
  intro htext
  have hfarewell : farewell.toList.head? = some 'G' := by decide
  rw [← List.append_nil farewell.toList] at htext
  cases houtcome : (Line.expr line).outcome with
  | ok tree =>
      obtain ⟨c, hhead, hclass⟩ := head?_reply_of_expr showTree houtcome
      obtain rfl := head_eq_of_append_eq hfarewell hhead htext
      exact absurd hclass (by decide)
  | error fault =>
      have hhead := head?_reply_of_fault showTree houtcome
      exact absurd (head_eq_of_append_eq hfarewell hhead htext) (by decide)

end Line

namespace Session

theorem transcript_cons_toList (session : Session) (text : String)
    (texts : List String) :
    (session.transcript (text :: texts)).toList =
      session.promptText.toList ++
        ((Line.reply session.showTree text).toList ++
          '\n' :: (session.transcript texts).toList) := by
  simp [transcript]

theorem farewell_ne_transcript_cons (session : Session) (text : String)
    (texts : List String) (rest : List Char) :
    session.promptText.toList ++ farewell.toList ≠
      (session.transcript (text :: texts)).toList ++ rest := by
  rw [transcript_cons_toList, List.append_assoc, ne_eq, List.append_right_inj,
    List.append_assoc]
  exact Line.farewell_ne_reply_append _ _ _

theorem outcomes_eq_of_transcript_eq (session : Session)
    {texts others : List String}
    (htext : (session.transcript texts).toList ++
        (session.promptText.toList ++ farewell.toList) =
      (session.transcript others).toList ++
        (session.promptText.toList ++ farewell.toList)) :
    texts.map (fun text => (Line.response session.showTree text).outcome) =
      others.map fun text => (Line.response session.showTree text).outcome := by
  have hnil : (session.transcript []).toList = [] := by
    simp [transcript]
  -- The other session keeps up with the first line by line, because a farewell
  -- never stands where a reply stands.
  induction texts generalizing others with
  | nil =>
      cases others with
      | nil => rfl
      | cons other others =>
          rw [hnil, List.nil_append] at htext
          exact absurd htext (session.farewell_ne_transcript_cons _ _ _)
  | cons text texts ih =>
      cases others with
      | nil =>
          rw [hnil, List.nil_append] at htext
          exact absurd htext.symm (session.farewell_ne_transcript_cons _ _ _)
      | cons other others =>
          simp only [transcript_cons_toList, List.append_assoc,
            List.append_right_inj, List.cons_append] at htext
          obtain ⟨houtcome, hrest⟩ := Line.reply_append_inj _ htext
          rw [List.map_cons, List.map_cons, houtcome, ih hrest]

theorem outcomes_eq_of_stdout_eq (session : Session)
    {first second : List UInt8} {texts others : List String}
    (hfirst : Reads first texts .ended) (hsecond : Reads second others .ended)
    (hstdout : (session.run first).stdout = (session.run second).stdout) :
    texts.map (fun text => (Line.response session.showTree text).outcome) =
      others.map fun text => (Line.response session.showTree text).outcome := by
  rw [(session.run_of_reads hfirst).1, (session.run_of_reads hsecond).1] at hstdout
  simp only [String.append_assoc, String.append_right_inj] at hstdout
  apply session.outcomes_eq_of_transcript_eq
  simpa [Stop.farewell, farewell] using congrArg String.toList hstdout

/-- Two sessions with the same transcript have read as many lines, with the
same outcomes.  Values, trees and messages hold no newline, so a line is
answered with one line of text, or with two if it has a tree that is shown. -/
theorem run_stdout_unambiguous (session : Session) :
    (∀ input : String, ∃ texts, Reads (utf8 input) texts .ended ∧
      (session.run (utf8 input)).stdout =
        "Simple arithmetic\n" ++
          String.join (texts.map fun text =>
            session.promptText ++ Line.reply session.showTree text ++ "\n") ++
          session.promptText ++ "Goodbye!\n") ∧
      (∀ (first second : String) (texts others : List String),
        Reads (utf8 first) texts .ended → Reads (utf8 second) others .ended →
        (session.run (utf8 first)).stdout = (session.run (utf8 second)).stdout →
        texts.map (fun text => (Line.response session.showTree text).outcome) =
          others.map fun text =>
            (Line.response session.showTree text).outcome) ∧
      ∀ line : String,
        (∀ showTree fault, (Line.response showTree line).outcome = .error fault →
          Line.reply showTree line = "Error, " ++ fault.message ∧
            '\n' ∉ fault.message.toList) ∧
        (∀ tree value, (Line.expr line).outcome = .ok tree →
          tree.value = .ok value →
          Line.reply false line = decimal value ∧
            Line.reply true line = tree.render ++ "\n" ++ decimal value ∧
            '\n' ∉ tree.render.toList ∧ '\n' ∉ (decimal value).toList) ∧
        ∀ showTree, (Line.reply showTree line ++ "\n").toList.count '\n' =
          match (Line.response showTree line).outcome with
          | .ok _ => if showTree then 2 else 1
          | .error _ => 1 := by
  refine ⟨?_, ?_, ?_⟩
  · intro input
    obtain ⟨texts, hreads⟩ := exists_reads_utf8 input
    exact ⟨texts, hreads, (session.run_of_reads hreads).1⟩
  · intro first second texts others hfirst hsecond hstdout
    exact session.outcomes_eq_of_stdout_eq hfirst hsecond hstdout
  · intro line
    refine ⟨?_, ?_, ?_⟩
    · intro showTree fault hfault
      rw [Line.response_outcome_eq_error_iff] at hfault
      exact ⟨Line.reply_of_fault showTree hfault,
        Line.newline_not_mem_message hfault⟩
    · intro tree value htree hvalue
      have hevaluable := Line.evaluable_of_expr htree
      rw [hevaluable.value, Except.ok.injEq] at hvalue
      subst hvalue
      refine ⟨?_, Line.reply_of_expr true htree,
        hevaluable.numeralLeaves.newline_not_mem_render,
        newline_not_mem_decimal _⟩
      simpa using Line.reply_of_expr false htree
    · intro showTree
      rw [String.toList_append, List.count_append, Line.count_newline_reply]
      cases (Line.response showTree line).outcome with
      | ok text => cases showTree <;> rfl
      | error fault => rfl

/-- Two sessions that differ in their blanks only, with trees and prompts. -/
theorem run_stdout_unambiguous_spaced :
    [(Line.response true "1+2*3").outcome, (Line.response true "&").outcome] =
      [(Line.response true " 1 + 2 * 3 ").outcome,
        (Line.response true "\t&").outcome] := by
  have hfirst : Reads (utf8 "1+2*3\n&\n") ["1+2*3", "&"] .ended := by
    have hlines : utf8 "1+2*3\n&\n" =
        utf8 ("1+2*3" ++ "\n") ++ (utf8 ("&" ++ "\n") ++ []) := by cbv
    rw [hlines]
    exact .line (by decide) (by decide) (.line (by decide) (by decide) .nothing)
  have hsecond : Reads (utf8 " 1 + 2 * 3 \n\t&") [" 1 + 2 * 3 ", "\t&"] .ended := by
    have hlines : utf8 " 1 + 2 * 3 \n\t&" =
        utf8 (" 1 + 2 * 3 " ++ "\n") ++ utf8 "\t&" := by cbv
    rw [hlines]
    exact .line (by decide) (by decide) (.last (by decide) (by decide))
  have hsum : ∀ source, (Line.tokens source).outcome =
      .ok [⟨.number, "1"⟩, ⟨.plus, "+"⟩, ⟨.number, "2"⟩, ⟨.times, "*"⟩,
        ⟨.number, "3"⟩] →
      Line.reply true source = "(PLUS 1 (MUL 2 3))\n7" := by
    intro source hscan
    rw [Line.reply_of_expr true (Line.expr_of_sum_of_product hscan)]
    cbv
  have hforeign : ∀ source, (Line.tokens source).outcome = .error (.foreign '&') →
      Line.reply true source = "Error, " ++ Fault.message (.foreign '&') := by
    intro source hscan
    exact Line.reply_of_fault true (Line.expr_outcome_eq_error_iff.mpr (.inl hscan))
  have hstdout : (Session.run ⟨true, none, true⟩ (utf8 "1+2*3\n&\n")).stdout =
      (Session.run ⟨true, none, true⟩ (utf8 " 1 + 2 * 3 \n\t&")).stdout := by
    rw [(run_of_reads _ hfirst).1, (run_of_reads _ hsecond).1]
    simp only [transcript, List.map_cons, List.map_nil,
      hsum "1+2*3" (by cbv), hsum " 1 + 2 * 3 " (by cbv),
      hforeign "&" (by cbv), hforeign "\t&" (by cbv)]
  exact (run_stdout_unambiguous ⟨true, none, true⟩).2.1 _ _ _ _ hfirst hsecond
    hstdout

end Session

end LineCalculator
