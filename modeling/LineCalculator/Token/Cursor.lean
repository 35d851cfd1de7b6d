import LineCalculator.Text.Blank
import LineCalculator.Token.Basic

/-!
# Reading tokens off a line

A cursor stands between two characters of a line.  Each step passes the blanks
in front of it and takes the longest run of digits or one operator sign.  A
character outside the language is reported once, and nothing behind it is
read.

`Cursor.next_rest_length_lt` says that a step which yields a token leaves less
to read; a scan ends for that reason.
-/

namespace LineCalculator

/-- The number of bytes that a text takes in UTF-8. -/
def byteLength (text : List Char) : Nat :=
  text.foldr (fun c bytes => c.utf8Size + bytes) 0

@[simp] theorem byteLength_nil : byteLength [] = 0 := rfl

@[simp] theorem byteLength_cons (c : Char) (text : List Char) :
    byteLength (c :: text) = c.utf8Size + byteLength text := rfl

@[simp] theorem byteLength_append (before after : List Char) :
    byteLength (before ++ after) = byteLength before + byteLength after := by
  induction before with
  | nil => simp
  | cons c before ih =>
      rw [List.cons_append, byteLength_cons, byteLength_cons, ih, Nat.add_assoc]

/-- A token and the number of bytes of the line in front of it. -/
structure Located where
  token : Token
  offset : Nat
  deriving DecidableEq, Repr

inductive Step where
  | token (found : Located)
  | foreign (c : Char)
  | done
  deriving DecidableEq, Repr

/-- A position in a line: the bytes passed and the characters ahead. -/
structure Cursor where
  offset : Nat
  rest : List Char
  deriving DecidableEq, Repr

namespace Cursor

def start (source : String) : Cursor :=
  ⟨0, source.toList⟩

def advance (cursor : Cursor) (count : Nat) : Cursor :=
  ⟨cursor.offset + byteLength (cursor.rest.take count), cursor.rest.drop count⟩

def skipBlanks (cursor : Cursor) : Cursor :=
  cursor.advance (cursor.rest.takeWhile isBlank).length

/-- The token, or the foreign character, that stands right at the cursor. -/
def look (cursor : Cursor) : Step :=
  match cursor.rest with
  | [] => .done
  | c :: _ =>
      if c.isDigit then
        .token ⟨⟨.number, String.ofList (cursor.rest.takeWhile Char.isDigit)⟩,
          cursor.offset⟩
      else
        match Kind.ofSign? c with
        | some kind => .token ⟨⟨kind, String.singleton c⟩, cursor.offset⟩
        | none => .foreign c

/-- Passes what stands at the cursor.  Behind a foreign character that is all
of the line. -/
def take (cursor : Cursor) : Step × Cursor :=
  match cursor.look with
  | .token found => (.token found, cursor.advance found.token.lexeme.length)
  | .foreign c => (.foreign c, cursor.advance cursor.rest.length)
  | .done => (.done, cursor)

def next (cursor : Cursor) : Step × Cursor :=
  cursor.skipBlanks.take

def steps : Nat → Cursor → List Step
  | 0, _ => []
  | count + 1, cursor => cursor.next.1 :: steps count cursor.next.2

@[simp] theorem advance_rest (cursor : Cursor) (count : Nat) :
    (cursor.advance count).rest = cursor.rest.drop count := rfl

theorem drop_length_takeWhile (p : Char → Bool) (text : List Char) :
    text.drop (text.takeWhile p).length = text.dropWhile p := by
  induction text with
  | nil => rfl
  | cons c text ih => cases h : p c <;> simp [List.takeWhile, List.dropWhile, h, ih]

@[simp] theorem skipBlanks_rest (cursor : Cursor) :
    cursor.skipBlanks.rest = cursor.rest.dropWhile isBlank :=
  drop_length_takeWhile isBlank cursor.rest

/-- What is looked at has text, and that text is ahead of the cursor. -/
theorem length_pos_of_look {cursor : Cursor} {found : Located}
    (hlook : cursor.look = .token found) :
    0 < found.token.lexeme.length ∧ cursor.rest ≠ [] := by
  unfold look at hlook
  split at hlook
  · simp at hlook
  · rename_i c text hrest
    refine ⟨?_, by simp [hrest]⟩
    split at hlook
    · rename_i hdigit
      cases hlook
      simp only [hrest, List.takeWhile_cons_of_pos hdigit, String.length_ofList]
      exact Nat.zero_lt_succ _
    · split at hlook
      · cases hlook
        simp
      · simp at hlook

theorem take_rest_length_lt {cursor after : Cursor} {found : Located}
    (htake : cursor.take = (.token found, after)) :
    after.rest.length < cursor.rest.length := by
  unfold take at htake
  split at htake
  · rename_i seen hlook
    obtain ⟨htext, hahead⟩ := length_pos_of_look hlook
    cases htake
    have := List.length_pos_iff.2 hahead
    simp only [advance_rest, List.length_drop]
    omega
  · simp at htake
  · simp at htake

theorem next_rest_length_lt {cursor after : Cursor} {found : Located}
    (hnext : cursor.next = (.token found, after)) :
    after.rest.length < cursor.rest.length := by
  have htake := take_rest_length_lt hnext
  have hblanks := (List.dropWhile_suffix (l := cursor.rest) isBlank).length_le
  rw [skipBlanks_rest] at htake
  omega

end Cursor

/-- All tokens of a line up to its first foreign character, and that
character. -/
structure Scan where
  found : List Located
  foreign : Option Char
  deriving DecidableEq, Repr

def Cursor.scan (cursor : Cursor) : Scan :=
  match _ : cursor.next with
  | (.token found, after) =>
      let later := after.scan
      { later with found := found :: later.found }
  | (.foreign c, _) => ⟨[], some c⟩
  | (.done, _) => ⟨[], none⟩
termination_by cursor.rest.length
decreasing_by exact next_rest_length_lt ‹_›

theorem Cursor.scan_of_token {cursor after : Cursor} {found : Located}
    (hnext : cursor.next = (.token found, after)) :
    cursor.scan = ⟨found :: after.scan.found, after.scan.foreign⟩ := by
  rw [scan]
  split <;> simp_all

theorem Cursor.scan_of_foreign {cursor after : Cursor} {c : Char}
    (hnext : cursor.next = (.foreign c, after)) :
    cursor.scan = ⟨[], some c⟩ := by
  rw [scan]
  split <;> simp_all

theorem Cursor.scan_of_done {cursor after : Cursor}
    (hnext : cursor.next = (.done, after)) :
    cursor.scan = ⟨[], none⟩ := by
  rw [scan]
  split <;> simp_all

namespace Scan

def ofString (source : String) : Scan :=
  (Cursor.start source).scan

/-- The tokens of a line without foreign characters, or its first foreign
character. -/
def tokens (scan : Scan) : Except Char (List Token) :=
  match scan.foreign with
  | some c => .error c
  | none => .ok (scan.found.map Located.token)

end Scan

end LineCalculator
