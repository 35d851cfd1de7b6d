import LineCalculator.Proofs.Token.Layout
import Mathlib.Tactic

/-!
# Cursors between characters

A cursor counts the bytes that it has passed and keeps the characters ahead.
The count could as well be the whole cursor, with the text ahead cut out of the
line at that byte whenever it is needed.  `Indexed.next?` steps in this way.
A cut is refused if it leaves the line or goes through a character.

Every move of a cursor is an `advance`, and an advance takes whole characters.
So what is passed and what is ahead always make up the line, no cut is ever
refused, and both ways to step agree.
-/

namespace LineCalculator

/-- The part of a text from one byte up to another.  There is none unless both
lie between characters and in this order. -/
def slice? (text : String) (first last : Nat) : Option String :=
  if h : first ≤ last ∧ String.Pos.Raw.IsValid text ⟨first⟩ ∧
      String.Pos.Raw.IsValid text ⟨last⟩ then
    some (String.extract ⟨⟨first⟩, h.2.1⟩ ⟨⟨last⟩, h.2.2⟩)
  else none

/-- The number of bytes of the longest run at the start of a text. -/
def runLength (p : Char → Bool) (text : String) : Nat :=
  byteLength (text.toList.takeWhile p)

namespace Indexed

def ahead? (source : String) (index : Nat) : Option String :=
  slice? source index source.utf8ByteSize

def skipBlanks? (source : String) (index : Nat) : Option Nat := do
  let ahead ← ahead? source index
  return index + runLength isBlank ahead

def number? (source : String) (index : Nat) : Option Token := do
  let ahead ← ahead? source index
  let lexeme ← slice? ahead 0 (runLength Char.isDigit ahead)
  return ⟨.number, lexeme⟩

def sign? (source : String) (index : Nat) (kind : Kind) : Option Token := do
  let ahead ← ahead? source index
  let lexeme ← slice? ahead 0 1
  return ⟨kind, lexeme⟩

def look? (source : String) (index : Nat) : Option Step := do
  let ahead ← ahead? source index
  match ahead.toList with
  | [] => return .done
  | c :: _ =>
      if c.isDigit then
        let token ← number? source index
        return .token ⟨token, index⟩
      else
        match Kind.ofSign? c with
        | some kind =>
            let token ← sign? source index kind
            return .token ⟨token, index⟩
        | none => return .foreign c

/-- A step from a byte of the line, and the byte behind it.  There is none if
the line is cut in a wrong place on the way. -/
def next? (source : String) (index : Nat) : Option (Step × Nat) := do
  let start ← skipBlanks? source index
  let step ← look? source start
  match step with
  | .token found => return (step, start + found.token.lexeme.utf8ByteSize)
  | .foreign _ => return (step, source.utf8ByteSize)
  | .done => return (step, start)

end Indexed

namespace Cursor

/-- The cursor after `count` steps from the start of a line. -/
def reached (source : String) : Nat → Cursor
  | 0 => start source
  | count + 1 => (reached source count).next.2

/-- The cursor stands between two characters of the line or at one of its
ends, and has the characters behind that place ahead. -/
structure OnBoundary (cursor : Cursor) (source : String) : Prop where
  le_size : cursor.offset ≤ source.utf8ByteSize
  isValid : String.Pos.Raw.IsValid source ⟨cursor.offset⟩
  ahead : slice? source cursor.offset source.utf8ByteSize =
    some (String.ofList cursor.rest)

end Cursor

/-! ## Cuts between characters -/

theorem slice?_append (before middle after : String) :
    slice? (before ++ (middle ++ after)) before.utf8ByteSize
      (before.utf8ByteSize + middle.utf8ByteSize) = some middle := by
  have hfirst : String.Pos.Raw.IsValid (before ++ (middle ++ after))
      ⟨before.utf8ByteSize⟩ :=
    String.Pos.Raw.isValid_iff_exists_append.mpr
      ⟨before, middle ++ after, rfl, rfl⟩
  have hlast : String.Pos.Raw.IsValid (before ++ (middle ++ after))
      ⟨before.utf8ByteSize + middle.utf8ByteSize⟩ := by
    apply String.Pos.Raw.isValid_iff_exists_append.mpr
    refine ⟨before ++ middle, after, ?_, ?_⟩
    · rw [String.append_assoc]
    · rw [String.rawEndPos, String.utf8ByteSize_append]
  have hbytes : (before ++ (middle ++ after)).toByteArray.extract
      before.utf8ByteSize (before.utf8ByteSize + middle.utf8ByteSize) =
        middle.toByteArray :=
    calc
      _ = (middle ++ after).toByteArray.extract 0 middle.utf8ByteSize := by
        rw [String.toByteArray_append]
        exact ByteArray.extract_append_size_add (i := 0)
      _ = middle.toByteArray := by
        rw [String.toByteArray_append]
        exact ByteArray.extract_append_eq_left rfl
  rw [slice?, dif_pos ⟨Nat.le_add_right _ _, hfirst, hlast⟩, Option.some.injEq,
    ← String.toByteArray_inj, String.toByteArray_extract]
  exact hbytes

theorem slice?_zero (middle after : String) :
    slice? (middle ++ after) 0 middle.utf8ByteSize = some middle := by
  have hslice := slice?_append "" middle after
  simpa using hslice

theorem byteLength_pos {text : List Char} (hne : text ≠ []) :
    0 < byteLength text := by
  obtain ⟨c, tail, rfl⟩ := List.exists_cons_of_ne_nil hne
  rw [byteLength_cons]
  exact Nat.add_pos_left c.utf8Size_pos _

theorem byteLength_eq_utf8ByteSize (text : List Char) :
    byteLength text = (String.ofList text).utf8ByteSize := by
  induction text with
  | nil => rfl
  | cons c text ih =>
      rw [byteLength_cons, ih, String.ofList_cons, String.utf8ByteSize_append,
        String.utf8ByteSize_singleton]

theorem slice?_takeWhile (p : Char → Bool) (text : List Char) :
    slice? (String.ofList text) 0 (runLength p (String.ofList text)) =
      some (String.ofList (text.takeWhile p)) := by
  have hslice := slice?_zero (String.ofList (text.takeWhile p))
    (String.ofList (text.dropWhile p))
  rw [runLength, String.toList_ofList]
  rwa [← String.ofList_append, List.takeWhile_append_dropWhile,
    ← byteLength_eq_utf8ByteSize] at hslice

namespace Cursor

variable {cursor : Cursor} {source : String}

/-- What a cursor has passed and what it has ahead make up the line. -/
def Divides (cursor : Cursor) (source : String) : Prop :=
  ∃ passed : String, source = passed ++ String.ofList cursor.rest ∧
    cursor.offset = passed.utf8ByteSize

theorem Divides.onBoundary (hdivides : cursor.Divides source) :
    cursor.OnBoundary source := by
  rcases hdivides with ⟨passed, hsource, hoffset⟩
  have hsize : source.utf8ByteSize =
      cursor.offset + (String.ofList cursor.rest).utf8ByteSize := by
    rw [hsource, String.utf8ByteSize_append, hoffset]
  have hslice := slice?_append passed (String.ofList cursor.rest) ""
  rw [String.append_empty, ← hsource, ← hoffset, ← hsize] at hslice
  refine ⟨by omega, ?_, hslice⟩
  rw [hoffset]
  exact String.Pos.Raw.isValid_iff_exists_append.mpr
    ⟨passed, String.ofList cursor.rest, hsource, rfl⟩

/-! ## Moves of a cursor -/

theorem divides_start (source : String) : (start source).Divides source :=
  ⟨"", by simp [start], rfl⟩

theorem Divides.advance (hdivides : cursor.Divides source) (count : Nat) :
    (cursor.advance count).Divides source := by
  rcases hdivides with ⟨passed, hsource, hoffset⟩
  refine ⟨passed ++ String.ofList (cursor.rest.take count), ?_, ?_⟩
  · rw [hsource, advance_rest, String.append_assoc, ← String.ofList_append,
      List.take_append_drop]
  · rw [String.utf8ByteSize_append, ← hoffset, ← byteLength_eq_utf8ByteSize]
    rfl

theorem offset_le_advance (cursor : Cursor) (count : Nat) :
    cursor.offset ≤ (cursor.advance count).offset :=
  Nat.le_add_right _ _

theorem exists_take_eq_advance (cursor : Cursor) :
    ∃ count, cursor.take.2 = cursor.advance count := by
  unfold take
  split
  · exact ⟨_, rfl⟩
  · exact ⟨_, rfl⟩
  · exact ⟨0, by simp [advance]⟩

theorem Divides.next (hdivides : cursor.Divides source) :
    cursor.next.2.Divides source := by
  obtain ⟨count, htake⟩ := exists_take_eq_advance cursor.skipBlanks
  rw [Cursor.next, htake]
  exact (hdivides.advance _).advance count

theorem offset_le_take (cursor : Cursor) : cursor.offset ≤ cursor.take.2.offset := by
  obtain ⟨count, htake⟩ := exists_take_eq_advance cursor
  rw [htake]
  exact offset_le_advance cursor count

theorem offset_le_next (cursor : Cursor) : cursor.offset ≤ cursor.next.2.offset :=
  Nat.le_trans (offset_le_advance _ _) (offset_le_take cursor.skipBlanks)

theorem reached_divides (source : String) (count : Nat) :
    (reached source count).Divides source := by
  induction count with
  | zero => exact divides_start source
  | succ count ih => exact ih.next

theorem offset_lt_advance {count : Nat} (hcount : 0 < count)
    (hrest : cursor.rest ≠ []) : cursor.offset < (cursor.advance count).offset := by
  have htaken : cursor.rest.take count ≠ [] := by
    simp [List.take_eq_nil_iff, hrest, Nat.ne_of_gt hcount]
  exact Nat.lt_add_of_pos_right (byteLength_pos htaken)

theorem offset_lt_take (htake : cursor.take.1 ≠ .done) :
    cursor.offset < cursor.take.2.offset := by
  unfold take at htake ⊢
  split
  · rename_i found hlook
    obtain ⟨hlength, hrest⟩ := length_pos_of_look hlook
    exact offset_lt_advance hlength hrest
  · rename_i c hlook
    have hrest : cursor.rest ≠ [] := by
      intro hnil
      simp [look, hnil] at hlook
    exact offset_lt_advance (List.length_pos_iff.mpr hrest) hrest
  · rename_i hlook
    simp [hlook] at htake

theorem offset_lt_next (hnext : cursor.next.1 ≠ .done) :
    cursor.offset < cursor.next.2.offset :=
  Nat.lt_of_le_of_lt (offset_le_advance _ _) (offset_lt_take hnext)

/-! ## Steps by bytes -/

theorem take_length_takeWhile (p : Char → Bool) (text : List Char) :
    text.take (text.takeWhile p).length = text.takeWhile p :=
  (List.prefix_iff_eq_take.mp (List.takeWhile_prefix p)).symm

/-- What is looked at stands right ahead. -/
theorem take_length_of_look {found : Located} (hlook : cursor.look = .token found) :
    cursor.rest.take found.token.lexeme.length = found.token.lexeme.toList := by
  unfold look at hlook
  split at hlook
  · simp at hlook
  · rename_i c text hrest
    split at hlook
    · cases hlook
      rw [String.length_ofList, String.toList_ofList, take_length_takeWhile]
    · split at hlook
      · cases hlook
        simp [hrest]
      · simp at hlook

/-- A sign takes one byte, so the cut behind it is between characters. -/
theorem slice?_one_of_sign {c : Char} {kind : Kind} (text : String)
    (hsign : Kind.ofSign? c = some kind) :
    slice? (String.singleton c ++ text) 0 1 = some (String.singleton c) := by
  have hsize : (String.singleton c).utf8ByteSize = 1 := by
    rcases Kind.ofSign?_eq_some_iff.mp hsign with
      ⟨rfl, _⟩ | ⟨rfl, _⟩ | ⟨rfl, _⟩ <;> rfl
  have hslice := slice?_zero (String.singleton c) text
  rwa [hsize] at hslice

theorem Divides.ahead? (hdivides : cursor.Divides source) :
    Indexed.ahead? source cursor.offset = some (String.ofList cursor.rest) :=
  hdivides.onBoundary.ahead

theorem Divides.skipBlanks? (hdivides : cursor.Divides source) :
    Indexed.skipBlanks? source cursor.offset = some cursor.skipBlanks.offset := by
  simp [Indexed.skipBlanks?, hdivides.ahead?, runLength, skipBlanks, Cursor.advance,
    take_length_takeWhile]

theorem Divides.number? (hdivides : cursor.Divides source) :
    Indexed.number? source cursor.offset =
      some ⟨.number, String.ofList (cursor.rest.takeWhile Char.isDigit)⟩ := by
  simp [Indexed.number?, hdivides.ahead?, slice?_takeWhile]

theorem Divides.sign? (hdivides : cursor.Divides source) {c : Char} {kind : Kind}
    {tail : List Char} (hrest : cursor.rest = c :: tail)
    (hsign : Kind.ofSign? c = some kind) :
    Indexed.sign? source cursor.offset kind =
      some ⟨kind, String.singleton c⟩ := by
  simp [Indexed.sign?, hdivides.ahead?, hrest, slice?_one_of_sign _ hsign]

theorem Divides.look? (hdivides : cursor.Divides source) :
    Indexed.look? source cursor.offset = some cursor.look := by
  rw [Indexed.look?, hdivides.ahead?, Cursor.look]
  cases hrest : cursor.rest with
  | nil => simp
  | cons c tail =>
      cases hdigit : c.isDigit with
      | true => simp [hdigit, hdivides.number?, hrest]
      | false =>
          cases hsign : Kind.ofSign? c with
          | some kind => simp [hdigit, hsign, hdivides.sign? hrest hsign]
          | none => simp [hdigit, hsign]

theorem advance_offset_of_look {found : Located}
    (hlook : cursor.look = .token found) :
    (cursor.advance found.token.lexeme.length).offset =
      cursor.offset + found.token.lexeme.utf8ByteSize := by
  rw [advance, take_length_of_look hlook, byteLength_eq_utf8ByteSize,
    String.ofList_toList]

theorem Divides.advance_length_offset (hdivides : cursor.Divides source) :
    (cursor.advance cursor.rest.length).offset = source.utf8ByteSize := by
  rcases hdivides with ⟨passed, hsource, hoffset⟩
  rw [Cursor.advance, List.take_length, byteLength_eq_utf8ByteSize, hoffset, hsource,
    String.utf8ByteSize_append]

theorem Divides.next? (hdivides : cursor.Divides source) :
    Indexed.next? source cursor.offset =
      some (cursor.next.1, cursor.next.2.offset) := by
  have hstart : cursor.skipBlanks.Divides source := hdivides.advance _
  rw [Indexed.next?, hdivides.skipBlanks?, Cursor.next, Cursor.take]
  simp only [Option.bind_eq_bind, Option.bind_some, hstart.look?]
  cases hlook : cursor.skipBlanks.look with
  | token found =>
      simp only [advance_offset_of_look hlook]
      rfl
  | foreign c =>
      simp only [hstart.advance_length_offset]
      rfl
  | done => rfl

/-- A scan never leaves the boundaries between characters, neither after a step
nor inside one, between the blanks and the token.  So every cut by bytes is in
place, and stepping by bytes gives what the cursor gives.  A step that finds
something goes forward, and none goes back. -/
theorem reached_onBoundary (source : String) (count : Nat) :
    (reached source count).OnBoundary source ∧
      (reached source count).skipBlanks.OnBoundary source ∧
      Indexed.next? source (reached source count).offset =
        some ((reached source count).next.1, (reached source (count + 1)).offset) ∧
      ((reached source count).next.1 ≠ .done →
        (reached source count).offset < (reached source (count + 1)).offset) ∧
      (reached source count).offset ≤ (reached source count).skipBlanks.offset ∧
      (reached source count).skipBlanks.offset ≤
        (reached source (count + 1)).offset ∧
      Monotone fun steps => (reached source steps).offset := by
  have hdivides := reached_divides source count
  have hstart : (reached source count).skipBlanks.Divides source :=
    hdivides.advance _
  have hmono : Monotone fun steps => (reached source steps).offset :=
    monotone_nat_of_le_succ fun steps => offset_le_next (reached source steps)
  exact ⟨hdivides.onBoundary, hstart.onBoundary, hdivides.next?, offset_lt_next,
    offset_le_advance _ _, offset_le_take _, hmono⟩

/-- Behind a wide blank, a number and a no-break blank stands a letter, and the
line has no boundary at its first or second byte. -/
theorem reached_onBoundary_wide :
    slice? "\u300012\u00a0é9" 1 5 = none ∧
      (reached "\u300012\u00a0é9" 1).next.1 = .foreign 'é' ∧
      (reached "\u300012\u00a0é9" 1).offset <
        (reached "\u300012\u00a0é9" 2).offset := by
  have hnext : (reached "\u300012\u00a0é9" 1).next.1 = .foreign 'é' := by cbv
  obtain ⟨_, _, _, hforward, _⟩ := reached_onBoundary "\u300012\u00a0é9" 1
  exact ⟨by decide, hnext, hforward (by simp [hnext])⟩

end Cursor

end LineCalculator
