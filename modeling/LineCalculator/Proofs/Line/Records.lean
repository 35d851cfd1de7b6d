import LineCalculator.Proofs.Line.Events
import LineCalculator.Proofs.Text.Encoding
import LineCalculator.Proofs.Token.Concatenation
import Mathlib.Tactic

/-!
# Where records place the tokens of a line

The record of a token holds the number of bytes in front of the token.
`Locates` says that such numbers are right: in the bytes of the line each token
stands where its record places it, one behind the other, with blanks in front
of each.

A scan is followed through the bytes from its start.  What it has passed is
kept as bytes, and what is ahead as characters, so that a step moves the
blanks and the token that it takes from one side to the other.
-/

namespace LineCalculator

def Event.record (event : Event) : Level × String :=
  (event.level, event.message)

/-- The number of bytes up to the end of a token. -/
def Located.stop (located : Located) : Nat :=
  located.offset + (utf8 located.token.lexeme).length

/-- Whether bytes encode blanks only. -/
def AreBlank (bytes : List UInt8) : Prop :=
  ∃ blanks : String, (∀ c ∈ blanks.toList, isBlank c = true) ∧
    utf8 blanks = bytes

/-- The bytes behind `start` hold the tokens where they are located, one behind
the other, and blanks up to each of them. -/
structure Locates (bytes : List UInt8) (start : Nat) (found : List Located) :
    Prop where
  held : ∀ located ∈ found, located.offset < located.stop ∧
    bytes.extract located.offset located.stop = utf8 located.token.lexeme
  lead : ∀ first ∈ found.head?, start ≤ first.offset ∧
    AreBlank (bytes.extract start first.offset)
  apart : found.IsChain fun first second => first.stop ≤ second.offset ∧
    AreBlank (bytes.extract first.stop second.offset)

theorem Event.record_tokens (found : List Located) :
    (Event.tokens (found.map Located.token)).record =
      (.debug, "tokens: [" ++ ", ".intercalate
        (found.map fun located => quotedText located.token.label) ++ "]") := by
  simp [record, level, message, Function.comp_def]

/-! ## Parts of the bytes -/

theorem length_utf8 (text : String) :
    (utf8 text).length = byteLength text.toList := by
  rw [utf8]
  induction text.toList with
  | nil => rfl
  | cons c chars ih => simp [ih]

theorem extract_middle {α : Type} (before middle after : List α) :
    (before ++ (middle ++ after)).extract before.length
      (before.length + middle.length) = middle := by
  simp [List.extract_eq_take_drop]

theorem Locates.nil (bytes : List UInt8) (start : Nat) :
    Locates bytes start [] where
  held := by simp
  lead := by simp
  apart := .nil

/-- A token in front of others that are located from its end on. -/
theorem Locates.cons {before after : List UInt8} {blanks : String}
    {token : Token} {later : List Located}
    (hblanks : ∀ c ∈ blanks.toList, isBlank c = true)
    (htoken : token.lexeme ≠ "")
    (hlater : Locates (before ++ (utf8 blanks ++ (utf8 token.lexeme ++ after)))
      (before.length + (utf8 blanks).length + (utf8 token.lexeme).length) later) :
    Locates (before ++ (utf8 blanks ++ (utf8 token.lexeme ++ after)))
      before.length (⟨token, before.length + (utf8 blanks).length⟩ :: later) where
  held := by
    rw [List.forall_mem_cons]
    refine ⟨⟨?_, ?_⟩, hlater.held⟩
    · have hpos := List.length_pos_iff.mpr (utf8_ne_nil htoken)
      simp only [Located.stop]
      omega
    · have hmiddle := extract_middle (before ++ utf8 blanks) (utf8 token.lexeme)
        after
      rwa [List.append_assoc, List.length_append] at hmiddle
  lead := by
    intro first hfirst
    obtain rfl := Option.some.inj hfirst
    refine ⟨Nat.le_add_right _ _, blanks, hblanks, ?_⟩
    exact (extract_middle before (utf8 blanks) (utf8 token.lexeme ++ after)).symm
  apart := List.isChain_cons.mpr ⟨hlater.lead, hlater.apart⟩

/-! ## Scans -/

theorem Cursor.scan_locates (before : List UInt8) (text : List Char) :
    Locates (before ++ utf8 (String.ofList text)) before.length
      (Cursor.mk before.length text).scan.found := by
  induction text using scan_induction generalizing before with
  | token blanks token tail hblanks hspelled htail ih =>
      have hskipped : (utf8 (String.ofList blanks)).length = byteLength blanks := by
        rw [length_utf8, String.toList_ofList]
      have htext : String.ofList (blanks ++ (token.lexeme.toList ++ tail)) =
          String.ofList blanks ++ (token.lexeme ++ String.ofList tail) := by
        apply String.toList_inj.mp
        simp
      have hne : token.lexeme ≠ "" := by
        intro hempty
        exact hspelled.lexeme_ne_nil (by simp [hempty])
      rw [scan_of_token (next_spelled before.length hblanks hspelled htail), htext,
        utf8_append, utf8_append, ← hskipped, ← length_utf8]
      -- Blanks and token go over to the bytes that the scan has passed.
      have hlater := ih (before ++ utf8 (String.ofList blanks) ++
        utf8 token.lexeme)
      rw [List.length_append, List.length_append, List.append_assoc,
        List.append_assoc] at hlater
      exact Locates.cons (by simpa using hblanks) hne hlater
  | foreign blanks c tail hblanks hforeign =>
      rw [scan_of_foreign (next_foreign before.length hblanks hforeign)]
      exact Locates.nil _ _
  | done blanks hblanks =>
      rw [scan_of_done (next_blanks before.length hblanks)]
      exact Locates.nil _ _

namespace Line

theorem ofString_locates (source : String) :
    Locates (utf8 source) 0 (Scan.ofString source).found := by
  have hlocates := Cursor.scan_locates [] source.toList
  rwa [List.nil_append, String.ofList_toList, List.length_nil] at hlocates

theorem filter_trace_events (showTree : Bool) (source : String) :
    (Line.response showTree source).events.filter
        (fun event => event.level = .trace) =
      (Scan.ofString source).found.map Event.scanned := by
  have hscanned : ((Scan.ofString source).found.map Event.scanned).filter
      (fun event => event.level = .trace) =
        (Scan.ofString source).found.map Event.scanned := by
    rw [List.filter_eq_self]
    intro event hevent
    obtain ⟨located, _, rfl⟩ := List.mem_map.mp hevent
    rfl
  rw [response_events, expr_events, List.filter_append, hscanned]
  cases (Line.tokens source).outcome with
  | error fault => simp
  | ok tokens =>
      cases hread : Expr.ofTokens tokens with
      | error cause => simp [hread, Event.level]
      | ok tree => simp [hread, Event.level]

theorem found_eq_of_tokens {source : String} {tokens : List Token}
    (hscan : (Line.tokens source).outcome = .ok tokens) :
    (Scan.ofString source).found.map Located.token = tokens := by
  rw [tokens_outcome_eq] at hscan
  split at hscan
  · simp at hscan
  · exact Except.ok.inj hscan

/-- Nothing but the tokens in front of a foreign character is recorded. -/
theorem response_events_of_foreign (showTree : Bool) {before after : String}
    {c : Char} (hclean : ∀ d ∈ before.toList, isForeign d = false)
    (hforeign : isForeign c = true) :
    (Line.response showTree (before ++ String.singleton c ++ after)).events =
      (Scan.ofString before).found.map Event.scanned := by
  have hscan : Scan.ofString (before ++ String.singleton c ++ after) =
      ⟨(Scan.ofString before).found, some c⟩ := by
    rw [Scan.ofString, Cursor.start, String.toList_append, String.toList_append,
      String.toList_singleton, List.append_assoc, List.singleton_append]
    exact Cursor.scan_append_cons_foreign 0 hclean hforeign
  have houtcome : (Line.tokens (before ++ String.singleton c ++ after)).outcome =
      .error (.foreign c) := by
    rw [Line.tokens, hscan]
    rfl
  rw [response_events, expr_events, houtcome, hscan, List.append_nil]

end Line

/-- The records of a line: one for each token, with the place of the token in
the bytes of the line, then one for the list of tokens if there is no foreign
character, and one for the tree if the tokens have one.  They do not depend on
whether the tree is shown. -/
theorem Line.response_records_locate_tokens (showTree : Bool) (source : String) :
    (Line.response showTree source).events.map Event.record =
        (Scan.ofString source).found.map (fun located =>
          (.trace, "scanned " ++ located.token.label ++ " at offset " ++
            located.offset.repr)) ++
          (match (Line.tokens source).outcome with
          | .error _ => []
          | .ok tokens =>
              (.debug, "tokens: [" ++ ", ".intercalate
                ((Scan.ofString source).found.map fun located =>
                  quotedText located.token.label) ++ "]") ::
                match Expr.ofTokens tokens with
                | .error _ => []
                | .ok tree => [(.debug, "tree: " ++ tree.render)]) ∧
      (∀ tokens, (Line.tokens source).outcome = .ok tokens →
        (Scan.ofString source).found.map Located.token = tokens) ∧
      Locates (utf8 source) 0 (Scan.ofString source).found ∧
      ∀ before c after, source = before ++ String.singleton c ++ after →
        (∀ earlier ∈ before.toList, isForeign earlier = false) →
        isForeign c = true →
        (Line.response showTree source).events =
          (Line.response showTree before).events.filter fun event =>
            event.level = .trace := by
  refine ⟨?_, fun tokens => found_eq_of_tokens, ofString_locates source, ?_⟩
  · rw [response_events, expr_events, List.map_append, List.map_map]
    congr 1
    cases hscan : (Line.tokens source).outcome with
    | error fault => rfl
    | ok tokens =>
        rw [← found_eq_of_tokens hscan]
        cases hread : Expr.ofTokens
            ((Scan.ofString source).found.map Located.token) with
        | error cause =>
            simp only [hread, List.map_cons, Event.record_tokens]
            rfl
        | ok tree =>
            simp only [hread, List.map_cons, Event.record_tokens]
            rfl
  · rintro before c after rfl hclean hforeign
    rw [response_events_of_foreign showTree hclean hforeign, filter_trace_events]

/-- A number behind a wide blank, and a foreign letter behind a no-break one. -/
theorem Line.response_records_locate_tokens_wide :
    (utf8 "\u300012\u00a0é9").extract 3 5 = utf8 "12" ∧
      (Line.response true "\u300012\u00a0é9").events =
        (Line.response true "\u300012\u00a0").events.filter fun event =>
          event.level = .trace := by
  have hfound : (Scan.ofString "\u300012\u00a0é9").found =
      [⟨⟨.number, "12"⟩, 3⟩] := by cbv
  have hnone : "\u300012\u00a0".toList.find? isForeign = none := by cbv
  obtain ⟨_, _, hlocates, hforeign⟩ :=
    Line.response_records_locate_tokens true "\u300012\u00a0é9"
  rw [hfound] at hlocates
  refine ⟨(hlocates.held _ List.mem_cons_self).2, ?_⟩
  apply hforeign "\u300012\u00a0" 'é' "9" rfl
  · intro earlier hearlier
    simpa using List.find?_eq_none.mp hnone earlier hearlier
  · decide

end LineCalculator
