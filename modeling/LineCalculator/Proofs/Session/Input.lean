import LineCalculator.Proofs.Text.Encoding
import Mathlib.Tactic

/-!
# The lines of an input

`Reads` says what the bytes of an input stand for, without a word on how they
are read: texts in UTF-8, each with its ending, up to the end of the input or
to a line that encodes no text.  Every input has such a reading.

`takeLine` and `decodeLine?` take a reading apart from its front, one lemma
for each way in which a line can stand there.
-/

namespace LineCalculator

/-- Why no further line is read. -/
inductive Stop where
  | ended
  | undecodable
  deriving DecidableEq, Repr

/-- The texts of an input's lines, up to the first line that is no UTF-8.  One
carriage return in front of a newline belongs to the ending of its line.  The
last line may lack its newline unless it is empty. -/
inductive Reads : List UInt8 → List String → Stop → Prop where
  | nothing : Reads [] [] .ended
  | line {text : String} {rest : List UInt8} {texts : List String} {stop : Stop}
      (hnewline : '\n' ∉ text.toList)
      (hreturn : text.toList.getLast? ≠ some '\r')
      (hrest : Reads rest texts stop) :
      Reads (utf8 (text ++ "\n") ++ rest) (text :: texts) stop
  | lineWithReturn {text : String} {rest : List UInt8} {texts : List String}
      {stop : Stop} (hnewline : '\n' ∉ text.toList)
      (hrest : Reads rest texts stop) :
      Reads (utf8 (text ++ "\r\n") ++ rest) (text :: texts) stop
  | last {text : String} (hnewline : '\n' ∉ text.toList) (hne : text ≠ "") :
      Reads (utf8 text) [text] .ended
  | undecodable {bytes rest : List UInt8} (hnewline : newline ∉ bytes)
      (hbytes : ¬IsUTF8 (bytes ++ [newline])) :
      Reads (bytes ++ newline :: rest) [] .undecodable
  | undecodableLast {bytes : List UInt8} (hnewline : newline ∉ bytes)
      (hbytes : ¬IsUTF8 bytes) : Reads bytes [] .undecodable

/-! ## Every input has a reading -/

theorem eq_append_return_of_getLast? {text : String}
    (hreturn : text.toList.getLast? = some '\r') :
    ∃ before : String, text = before ++ "\r" := by
  obtain ⟨chars, hchars⟩ := List.getLast?_eq_some_iff.mp hreturn
  refine ⟨String.ofList chars, ?_⟩
  apply String.toList_inj.mp
  simp [hchars]

theorem append_returnNewline (text : String) :
    text ++ "\r\n" = text ++ "\r" ++ "\n" := by
  rw [String.append_assoc]
  rfl

/-- A line is read without the carriage return that it may end with. -/
theorem Reads.cons_line {text : String} {rest : List UInt8}
    {texts : List String} {stop : Stop} (hnewline : '\n' ∉ text.toList)
    (hrest : Reads rest texts stop) :
    ∃ shown, (text = shown ∨ text = shown ++ "\r") ∧
      Reads (utf8 text ++ newline :: rest) (shown :: texts) stop := by
  by_cases hreturn : text.toList.getLast? = some '\r'
  · obtain ⟨before, rfl⟩ := eq_append_return_of_getLast? hreturn
    have hbefore : '\n' ∉ before.toList := by simpa using hnewline
    have hbytes : utf8 (before ++ "\r") ++ newline :: rest =
        utf8 (before ++ "\r\n") ++ rest := by
      rw [append_returnNewline, utf8_append _ "\n", utf8_newline]
      simp
    rw [hbytes]
    exact ⟨before, .inr rfl, .lineWithReturn hbefore hrest⟩
  · have hbytes : utf8 text ++ newline :: rest = utf8 (text ++ "\n") ++ rest := by
      rw [utf8_append, utf8_newline]
      simp
    rw [hbytes]
    exact ⟨text, .inl rfl, .line hnewline hreturn hrest⟩

theorem exists_reads_of_newline_not_mem {input : List UInt8}
    (hnewline : newline ∉ input) : ∃ texts stop, Reads input texts stop := by
  by_cases hdecodes : IsUTF8 input
  · obtain ⟨text, rfl⟩ := hdecodes
    rw [newline_mem_utf8_iff] at hnewline
    by_cases hempty : text = ""
    · subst hempty
      exact ⟨[], .ended, .nothing⟩
    · exact ⟨[text], .ended, .last hnewline hempty⟩
  · exact ⟨[], .undecodable, .undecodableLast hnewline hdecodes⟩

theorem exists_reads (input : List UInt8) :
    ∃ texts stop, Reads input texts stop := by
  induction hlength : input.length using Nat.strong_induction_on
    generalizing input with
  | _ length ih =>
      by_cases hmem : newline ∈ input
      · obtain ⟨bytes, rest, rfl, hnewline⟩ := List.eq_append_cons_of_mem hmem
        by_cases hdecodes : IsUTF8 (bytes ++ [newline])
        · obtain ⟨whole, hwhole⟩ := hdecodes
          obtain ⟨text, _, _, rfl, _⟩ :=
            eq_append_newline_of_utf8 hnewline hwhole
          rw [newline_mem_utf8_iff] at hnewline
          have hshorter : rest.length < length := by
            simp only [List.length_append, List.length_cons] at hlength
            omega
          obtain ⟨texts, stop, hrest⟩ := ih rest.length hshorter rest rfl
          obtain ⟨shown, _, hreads⟩ := Reads.cons_line hnewline hrest
          exact ⟨shown :: texts, stop, hreads⟩
        · exact ⟨[], .undecodable, .undecodable hnewline hdecodes⟩
      · exact exists_reads_of_newline_not_mem hmem

/-! ## The first line of a reading -/

theorem takeLine_append_newline {bytes : List UInt8} (rest : List UInt8)
    (hnewline : newline ∉ bytes) :
    takeLine (bytes ++ newline :: rest) = (bytes ++ [newline], rest) := by
  have hrun : ∀ byte ∈ bytes, decide (byte ≠ newline) = true := by
    intro byte hbyte
    simpa using ne_of_mem_of_not_mem hbyte hnewline
  rw [takeLine, List.dropWhile_append_of_pos hrun,
    List.takeWhile_append_of_pos hrun]
  simp

theorem takeLine_of_newline_not_mem {bytes : List UInt8}
    (hnewline : newline ∉ bytes) : takeLine bytes = (bytes, []) := by
  have hdrop : bytes.dropWhile (· ≠ newline) = [] := by
    rw [List.dropWhile_eq_nil_iff]
    intro byte hbyte
    simpa using ne_of_mem_of_not_mem hbyte hnewline
  rw [takeLine, hdrop]

theorem stripEnding_newline {text : String}
    (hreturn : text.toList.getLast? ≠ some '\r') :
    stripEnding (text ++ "\n") = text := by
  have hchars : (text ++ "\n").toList.reverse = '\n' :: text.toList.reverse := by
    simp
  rw [← List.head?_reverse] at hreturn
  unfold stripEnding
  rw [hchars]
  split
  · rename_i chars hending
    rw [(List.cons.inj hending).2] at hreturn
    exact absurd rfl hreturn
  · rename_i chars _ hending
    rw [← (List.cons.inj hending).2]
    simp
  · rename_i hother
    exact absurd rfl (hother text.toList.reverse)

theorem stripEnding_returnNewline (text : String) :
    stripEnding (text ++ "\r\n") = text := by
  simp [stripEnding]

theorem stripEnding_of_newline_not_mem {text : String}
    (hnewline : '\n' ∉ text.toList) : stripEnding text = text := by
  rw [← List.mem_reverse] at hnewline
  unfold stripEnding
  split
  · rename_i hchars
    simp [hchars] at hnewline
  · rename_i hchars
    simp [hchars] at hnewline
  · rfl

theorem decodeLine?_utf8 (text : String) :
    decodeLine? (utf8 text) = some (stripEnding text) := by
  rw [decodeLine?, fromUTF8?_eq_some_iff.mpr rfl]
  rfl

theorem decodeLine?_eq_none {bytes : List UInt8} (hbytes : ¬IsUTF8 bytes) :
    decodeLine? bytes = none := by
  rw [decodeLine?, fromUTF8?_eq_none_iff.mpr hbytes]
  rfl

theorem takeLine_utf8_newline {text : String} (rest : List UInt8)
    (hnewline : '\n' ∉ text.toList) :
    takeLine (utf8 (text ++ "\n") ++ rest) = (utf8 (text ++ "\n"), rest) := by
  rw [utf8_append, utf8_newline, List.append_assoc]
  apply takeLine_append_newline
  rwa [newline_mem_utf8_iff]

namespace Reads

variable {input : List UInt8} {texts : List String} {stop : Stop}

theorem eq_nil_of_ended (hreads : Reads input [] .ended) : input = [] := by
  cases hreads
  rfl

theorem takeLine_cons {text : String}
    (hreads : Reads input (text :: texts) stop) :
    (takeLine input).1 ≠ [] ∧ decodeLine? (takeLine input).1 = some text ∧
      Reads (takeLine input).2 texts stop := by
  cases hreads with
  | line hnewline hreturn hrest =>
      rw [takeLine_utf8_newline _ hnewline, decodeLine?_utf8,
        stripEnding_newline hreturn]
      exact ⟨utf8_ne_nil (by simp), rfl, hrest⟩
  | lineWithReturn hnewline hrest =>
      have hmark : '\n' ∉ (text ++ "\r").toList := by simpa using hnewline
      rw [append_returnNewline, takeLine_utf8_newline _ hmark,
        ← append_returnNewline, decodeLine?_utf8, stripEnding_returnNewline]
      exact ⟨utf8_ne_nil (by simp), rfl, hrest⟩
  | last hnewline hne =>
      have hbytes : newline ∉ utf8 text := by rwa [newline_mem_utf8_iff]
      rw [takeLine_of_newline_not_mem hbytes, decodeLine?_utf8,
        stripEnding_of_newline_not_mem hnewline]
      exact ⟨utf8_ne_nil hne, rfl, .nothing⟩

theorem takeLine_undecodable (hreads : Reads input [] .undecodable) :
    (takeLine input).1 ≠ [] ∧ decodeLine? (takeLine input).1 = none := by
  cases hreads with
  | undecodable hnewline hbytes =>
      rw [takeLine_append_newline _ hnewline]
      exact ⟨by simp, decodeLine?_eq_none hbytes⟩
  | undecodableLast hnewline hbytes =>
      rw [takeLine_of_newline_not_mem hnewline]
      refine ⟨?_, decodeLine?_eq_none hbytes⟩
      intro hempty
      exact hbytes ⟨"", hempty.symm⟩

/-! ## Valid inputs and inputs of whole lines -/

theorem isUTF8_rest {text : String} {rest : List UInt8}
    (hnewline : '\n' ∉ text.toList) (hinput : IsUTF8 (utf8 (text ++ "\n") ++ rest)) :
    IsUTF8 rest := by
  obtain ⟨whole, hwhole⟩ := hinput
  rw [utf8_append, utf8_newline, List.append_assoc] at hwhole
  rw [← newline_mem_utf8_iff] at hnewline
  obtain ⟨_, other, _, _, hrest⟩ := eq_append_newline_of_utf8 hnewline hwhole
  exact ⟨other, hrest⟩

theorem stop_eq_ended_of_isUTF8 (hreads : Reads input texts stop)
    (hinput : IsUTF8 input) : stop = .ended := by
  induction hreads with
  | nothing => rfl
  | line hnewline _ _ ih => exact ih (isUTF8_rest hnewline hinput)
  | @lineWithReturn text _ _ _ hnewline _ ih =>
      have hmark : '\n' ∉ (text ++ "\r").toList := by simpa using hnewline
      rw [append_returnNewline] at hinput
      exact ih (isUTF8_rest hmark hinput)
  | last => rfl
  | undecodable hnewline hbytes =>
      obtain ⟨whole, hwhole⟩ := hinput
      obtain ⟨text, _, _, htext, _⟩ := eq_append_newline_of_utf8 hnewline hwhole
      refine absurd ⟨text ++ "\n", ?_⟩ hbytes
      rw [utf8_append, htext, utf8_newline]
  | undecodableLast hnewline hbytes => exact absurd hinput hbytes

theorem newline_of_getLast?_rest {front rest : List UInt8}
    (hwhole : ∀ byte ∈ (front ++ rest).getLast?, byte = newline) :
    ∀ byte ∈ rest.getLast?, byte = newline := by
  intro byte hbyte
  apply hwhole
  simp [Option.mem_def.mp hbyte]

theorem append {next : List UInt8} {others : List String}
    (hreads : Reads input texts .ended)
    (hwhole : ∀ byte ∈ input.getLast?, byte = newline)
    (hnext : Reads next others stop) :
    Reads (input ++ next) (texts ++ others) stop := by
  generalize hended : Stop.ended = reached at hreads
  induction hreads with
  | nothing => exact hnext
  | line hnewline hreturn _ ih =>
      rw [List.append_assoc]
      exact .line hnewline hreturn (ih (newline_of_getLast?_rest hwhole) hended)
  | lineWithReturn hnewline _ ih =>
      rw [List.append_assoc]
      exact .lineWithReturn hnewline (ih (newline_of_getLast?_rest hwhole) hended)
  | last hnewline hne =>
      -- A last line that lacks its newline would have to end with one.
      have hmem := List.getLast_mem (utf8_ne_nil hne)
      rw [hwhole _ (List.getLast?_eq_some_getLast (utf8_ne_nil hne)),
        newline_mem_utf8_iff] at hmem
      contradiction
  | undecodable => cases hended
  | undecodableLast => cases hended

end Reads

end LineCalculator
