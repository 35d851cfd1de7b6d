import LineCalculator.Line
import Mathlib.Data.List.TakeWhile
import Mathlib.Tactic

/-!
# How tokens are laid out in a line

A layout is a line as its writer sees it: tokens in their spelling, with
blanks around them, and with at least one blank between two numbers.  A line
without foreign characters has exactly one list of tokens that can be laid
out as its text, and a scan finds it.

`text_cases` says what can stand ahead of a scan, and `Cursor.next_spelled`,
`Cursor.next_blanks` and `Cursor.next_foreign` what one step does with it.
Everything about whole scans is derived from them by `scan_induction`.
-/

namespace LineCalculator

/-- A character that no token holds and that is no blank. -/
def isForeign (c : Char) : Bool :=
  !(isBlank c || c.isDigit || c == '+' || c == '-' || c == '*')

/-- The spelling that the kind of a token asks for. -/
def Token.WellSpelled (token : Token) : Prop :=
  match token.kind with
  | .number =>
      token.lexeme.toList ≠ [] ∧ ∀ c ∈ token.lexeme.toList, c.isDigit = true
  | .plus => token.lexeme = "+"
  | .minus => token.lexeme = "-"
  | .times => token.lexeme = "*"

structure Piece where
  token : Token
  gap : List Char
  spelled : token.WellSpelled
  blank : ∀ c ∈ gap, isBlank c = true

namespace Piece

def text (piece : Piece) : List Char :=
  piece.token.lexeme.toList ++ piece.gap

def Apart (piece next : Piece) : Prop :=
  piece.token.kind = .number → next.token.kind = .number → piece.gap ≠ []

end Piece

structure Layout where
  lead : List Char
  pieces : List Piece
  blank : ∀ c ∈ lead, isBlank c = true
  apart : pieces.IsChain Piece.Apart

namespace Layout

def text (layout : Layout) : List Char :=
  layout.lead ++ layout.pieces.flatMap Piece.text

def tokens (layout : Layout) : List Token :=
  layout.pieces.map Piece.token

end Layout

/-! ## Runs -/

section Runs

variable {α : Type} {p : α → Bool}

theorem exists_run (p : α → Bool) (text : List α) :
    ∃ run tail, text = run ++ tail ∧ (∀ c ∈ run, p c = true) ∧
      ∀ c ∈ tail.head?, p c = false := by
  refine ⟨text.takeWhile p, text.dropWhile p,
    List.takeWhile_append_dropWhile.symm, fun c => List.mem_takeWhile_imp, ?_⟩
  intro c hc
  have hhead := List.head?_dropWhile_not p text
  rw [Option.mem_def.mp hc] at hhead
  simpa using hhead

theorem takeWhile_run {run tail : List α} (hrun : ∀ c ∈ run, p c = true)
    (htail : ∀ c ∈ tail.head?, p c = false) :
    (run ++ tail).takeWhile p = run := by
  rw [List.takeWhile_append_of_pos hrun]
  cases tail with
  | nil => simp
  | cons c tail =>
      have hc : p c = false := by simpa using htail
      simp [hc]

/-- A list has one longest run at its front. -/
theorem run_append_inj {run other tail rest : List α}
    (hrun : ∀ c ∈ run, p c = true) (hother : ∀ c ∈ other, p c = true)
    (htail : ∀ c ∈ tail.head?, p c = false)
    (hrest : ∀ c ∈ rest.head?, p c = false)
    (htext : run ++ tail = other ++ rest) : run = other ∧ tail = rest := by
  have hfront := takeWhile_run hrun htail
  rw [htext, takeWhile_run hother hrest] at hfront
  subst hfront
  exact ⟨rfl, List.append_cancel_left htext⟩

/-- A separator ends the part in front of it if that part does not hold it. -/
theorem append_separator_inj [DecidableEq α] {separator : α}
    {first second rest others : List α} (hfirst : separator ∉ first)
    (hsecond : separator ∉ second)
    (htext : first ++ separator :: rest = second ++ separator :: others) :
    first = second ∧ rest = others := by
  have hparts := run_append_inj (p := fun c => c ≠ separator) ?_ ?_ ?_ ?_ htext
  · exact ⟨hparts.1, (List.cons.inj hparts.2).2⟩
  · intro c hc
    simpa using ne_of_mem_of_not_mem hc hfirst
  · intro c hc
    simpa using ne_of_mem_of_not_mem hc hsecond
  · simp
  · simp

end Runs

/-! ## Characters of tokens -/

theorem isForeign_eq_false_of_isBlank {c : Char} (hblank : isBlank c = true) :
    isForeign c = false := by
  simp [isForeign, hblank]

theorem isDigit_eq_false_of_isBlank {c : Char} (hblank : isBlank c = true) :
    c.isDigit = false := by
  by_contra hdigit
  rw [Bool.not_eq_false] at hdigit
  simp [isBlank_eq_false_of_isDigit hdigit] at hblank

theorem Kind.ofSign?_eq_none_iff {c : Char} :
    Kind.ofSign? c = none ↔ c ≠ '+' ∧ c ≠ '-' ∧ c ≠ '*' := by
  unfold Kind.ofSign?
  split <;> simp_all

theorem Kind.ofSign?_eq_some_iff {c : Char} {kind : Kind} :
    Kind.ofSign? c = some kind ↔
      c = '+' ∧ kind = .plus ∨ c = '-' ∧ kind = .minus ∨
        c = '*' ∧ kind = .times := by
  unfold Kind.ofSign?
  split <;> simp_all [eq_comm]

namespace Token.WellSpelled

variable {token : Token}

theorem not_isForeign (hspelled : token.WellSpelled) {c : Char}
    (hc : c ∈ token.lexeme.toList) : isForeign c = false := by
  unfold Token.WellSpelled at hspelled
  split at hspelled
  · simp [isForeign, hspelled.2 c hc]
  all_goals
    rw [hspelled] at hc
    simp at hc
    simp [isForeign, hc]

theorem cases_lexeme (hspelled : token.WellSpelled) :
    (token.kind = .number ∧ token.lexeme.toList ≠ [] ∧
        ∀ c ∈ token.lexeme.toList, c.isDigit = true) ∨
      ∃ c, token.lexeme = String.singleton c ∧ c.isDigit = false ∧
        Kind.ofSign? c = some token.kind := by
  unfold Token.WellSpelled at hspelled
  split at hspelled
  · rename_i hkind
    exact .inl ⟨hkind, hspelled⟩
  · rename_i hkind
    exact .inr ⟨'+', hspelled, by decide, by rw [hkind]; rfl⟩
  · rename_i hkind
    exact .inr ⟨'-', hspelled, by decide, by rw [hkind]; rfl⟩
  · rename_i hkind
    exact .inr ⟨'*', hspelled, by decide, by rw [hkind]; rfl⟩

theorem of_ofSign? {c : Char} {kind : Kind} (hsign : Kind.ofSign? c = some kind) :
    (Token.mk kind (String.singleton c)).WellSpelled := by
  rcases Kind.ofSign?_eq_some_iff.mp hsign with
    ⟨rfl, rfl⟩ | ⟨rfl, rfl⟩ | ⟨rfl, rfl⟩ <;> rfl

end Token.WellSpelled

/-! ## One step of a scan -/

namespace Cursor

theorem advance_append (offset : Nat) (run tail : List Char) :
    (Cursor.mk offset (run ++ tail)).advance run.length =
      ⟨offset + byteLength run, tail⟩ := by
  simp [advance]

theorem skipBlanks_append (offset : Nat) {blanks tail : List Char}
    (hblanks : ∀ c ∈ blanks, isBlank c = true)
    (htail : ∀ c ∈ tail.head?, isBlank c = false) :
    (Cursor.mk offset (blanks ++ tail)).skipBlanks =
      ⟨offset + byteLength blanks, tail⟩ := by
  rw [skipBlanks, takeWhile_run hblanks htail, advance_append]

theorem take_digits {offset : Nat} {digits tail : List Char}
    (hne : digits ≠ []) (hdigits : ∀ c ∈ digits, c.isDigit = true)
    (htail : ∀ c ∈ tail.head?, c.isDigit = false) :
    (Cursor.mk offset (digits ++ tail)).take =
      (.token ⟨⟨.number, String.ofList digits⟩, offset⟩,
        ⟨offset + byteLength digits, tail⟩) := by
  have hlook : (Cursor.mk offset (digits ++ tail)).look =
      .token ⟨⟨.number, String.ofList digits⟩, offset⟩ := by
    rw [look, takeWhile_run hdigits htail]
    cases digits with
    | nil => contradiction
    | cons c digits => simp [hdigits c (by simp)]
  rw [take, hlook]
  simp only [String.length_ofList, advance_append]

theorem take_sign {offset : Nat} {c : Char} {kind : Kind} {tail : List Char}
    (hdigit : c.isDigit = false) (hsign : Kind.ofSign? c = some kind) :
    (Cursor.mk offset (c :: tail)).take =
      (.token ⟨⟨kind, String.singleton c⟩, offset⟩,
        ⟨offset + byteLength [c], tail⟩) := by
  simp [take, look, hdigit, hsign, advance]

theorem take_foreign {offset : Nat} {c : Char} {tail : List Char}
    (hdigit : c.isDigit = false) (hsign : Kind.ofSign? c = none) :
    (Cursor.mk offset (c :: tail)).take =
      (.foreign c, ⟨offset + byteLength (c :: tail), []⟩) := by
  simp [take, look, hdigit, hsign, advance]

theorem next_spelled (offset : Nat) {blanks tail : List Char} {token : Token}
    (hblanks : ∀ c ∈ blanks, isBlank c = true) (hspelled : token.WellSpelled)
    (htail : token.kind = .number → ∀ c ∈ tail.head?, c.isDigit = false) :
    (Cursor.mk offset (blanks ++ (token.lexeme.toList ++ tail))).next =
      (.token ⟨token, offset + byteLength blanks⟩,
        ⟨offset + byteLength blanks + byteLength token.lexeme.toList, tail⟩) := by
  rcases token with ⟨kind, lexeme⟩
  rcases hspelled.cases_lexeme with
    ⟨hkind, hne, hdigits⟩ | ⟨c, hlexeme, hdigit, hsign⟩
  · obtain rfl : kind = .number := hkind
    have hhead : ∀ c ∈ (lexeme.toList ++ tail).head?, isBlank c = false := by
      intro c hc
      rw [List.head?_append_of_ne_nil _ hne] at hc
      exact isBlank_eq_false_of_isDigit (hdigits c (List.mem_of_mem_head? hc))
    rw [next, skipBlanks_append offset hblanks hhead,
      take_digits hne hdigits (htail rfl), String.ofList_toList]
  · obtain rfl : lexeme = String.singleton c := hlexeme
    have hblank : isBlank c = false := by
      rcases Kind.ofSign?_eq_some_iff.mp hsign with
        ⟨rfl, _⟩ | ⟨rfl, _⟩ | ⟨rfl, _⟩ <;> decide
    rw [String.toList_singleton, List.singleton_append, next,
      skipBlanks_append offset hblanks (by simpa using hblank), take_sign hdigit hsign]

theorem next_blanks (offset : Nat) {blanks : List Char}
    (hblanks : ∀ c ∈ blanks, isBlank c = true) :
    (Cursor.mk offset blanks).next = (.done, ⟨offset + byteLength blanks, []⟩) := by
  have htail : ∀ c ∈ ([] : List Char).head?, isBlank c = false := by simp
  have hskip := skipBlanks_append offset hblanks htail
  rw [List.append_nil] at hskip
  rw [next, hskip]
  rfl

theorem next_foreign (offset : Nat) {blanks tail : List Char} {c : Char}
    (hblanks : ∀ c ∈ blanks, isBlank c = true) (hforeign : isForeign c = true) :
    (Cursor.mk offset (blanks ++ c :: tail)).next =
      (.foreign c, ⟨offset + byteLength blanks + byteLength (c :: tail), []⟩) := by
  simp only [isForeign, Bool.not_eq_true', Bool.or_eq_false_iff,
    beq_eq_false_iff_ne] at hforeign
  rcases hforeign with ⟨⟨⟨⟨hblank, hdigit⟩, hplus⟩, hminus⟩, htimes⟩
  have hsign := Kind.ofSign?_eq_none_iff.mpr ⟨hplus, hminus, htimes⟩
  rw [next, skipBlanks_append offset hblanks (by simpa using hblank),
    take_foreign hdigit hsign]

end Cursor

/-- What can stand ahead: a token, a foreign character, or neither, each behind
blanks.  The lemmas above say what a step does in these cases. -/
theorem text_cases (text : List Char) :
    (∃ blanks, ∃ token : Token, ∃ tail,
        text = blanks ++ (token.lexeme.toList ++ tail) ∧
        (∀ c ∈ blanks, isBlank c = true) ∧ token.WellSpelled ∧
        (token.kind = .number → ∀ c ∈ tail.head?, c.isDigit = false)) ∨
      (∃ blanks c tail, text = blanks ++ c :: tail ∧
        (∀ c ∈ blanks, isBlank c = true) ∧ isForeign c = true) ∨
      ∀ c ∈ text, isBlank c = true := by
  rcases exists_run isBlank text with ⟨blanks, ahead, rfl, hblanks, hahead⟩
  cases ahead with
  | nil => exact .inr (.inr (by simpa using hblanks))
  | cons c behind =>
      have hblank : isBlank c = false := by simpa using hahead
      cases hdigit : c.isDigit with
      | true =>
          obtain ⟨digits, tail, htext, hdigits, htail⟩ :=
            exists_run Char.isDigit (c :: behind)
          have hne : digits ≠ [] := by
            rintro rfl
            rw [List.nil_append] at htext
            simp [← htext, hdigit] at htail
          refine .inl ⟨blanks, ⟨.number, String.ofList digits⟩, tail, ?_, hblanks,
            ?_, fun _ => htail⟩
          · rw [htext, String.toList_ofList]
          · simpa [Token.WellSpelled] using And.intro hne hdigits
      | false =>
          cases hsign : Kind.ofSign? c with
          | some kind =>
              refine .inl ⟨blanks, ⟨kind, String.singleton c⟩, behind, by simp,
                hblanks, Token.WellSpelled.of_ofSign? hsign, ?_⟩
              rintro ⟨⟩
              simp [Kind.ofSign?_eq_some_iff] at hsign
          | none =>
              rcases Kind.ofSign?_eq_none_iff.mp hsign with ⟨hplus, hminus, htimes⟩
              refine .inr (.inl ⟨blanks, c, behind, rfl, hblanks, ?_⟩)
              simp [isForeign, hblank, hdigit, hplus, hminus, htimes]

theorem Token.WellSpelled.lexeme_ne_nil {token : Token}
    (hspelled : token.WellSpelled) : token.lexeme.toList ≠ [] := by
  rcases hspelled.cases_lexeme with ⟨_, hne, _⟩ | ⟨c, hlexeme, _⟩
  · exact hne
  · simp [hlexeme]

/-- Induction along the steps of a scan. -/
@[elab_as_elim] theorem scan_induction {motive : List Char → Prop}
    (token : ∀ blanks (token : Token) tail,
      (∀ c ∈ blanks, isBlank c = true) → token.WellSpelled →
      (token.kind = .number → ∀ c ∈ tail.head?, c.isDigit = false) →
      motive tail → motive (blanks ++ (token.lexeme.toList ++ tail)))
    (foreign : ∀ blanks c tail, (∀ c ∈ blanks, isBlank c = true) →
      isForeign c = true → motive (blanks ++ c :: tail))
    (done : ∀ blanks, (∀ c ∈ blanks, isBlank c = true) → motive blanks)
    (text : List Char) : motive text := by
  induction hlength : text.length using Nat.strong_induction_on generalizing text with
  | _ length ih =>
      rcases text_cases text with
        ⟨blanks, found, tail, rfl, hblanks, hspelled, htail⟩ |
        ⟨blanks, c, tail, rfl, hblanks, hforeign⟩ | hblanks
      · have hpos := List.length_pos_iff.mpr hspelled.lexeme_ne_nil
        simp only [List.length_append] at hlength
        exact token blanks found tail hblanks hspelled htail
          (ih tail.length (by omega) tail rfl)
      · exact foreign blanks c tail hblanks hforeign
      · exact done text hblanks

/-! ## Whole scans -/

/-- A layout starts with a digit if it starts with a number right away. -/
theorem Layout.head?_not_isDigit_iff (layout : Layout) :
    (∀ c ∈ layout.text.head?, c.isDigit = false) ↔
      ∀ piece ∈ layout.pieces.head?, piece.token.kind = .number →
        layout.lead ≠ [] := by
  rcases layout with ⟨lead, pieces, hblank, _⟩
  cases lead with
  | cons c lead =>
      have hdigit := isDigit_eq_false_of_isBlank (hblank c (by simp))
      simpa [text] using hdigit
  | nil =>
      cases pieces with
      | nil => simp [text]
      | cons piece pieces =>
          rcases piece.spelled.cases_lexeme with
            ⟨hnumber, hne, hdigits⟩ | ⟨c, hlexeme, hdigit, hsign⟩
          · rcases List.exists_cons_of_ne_nil hne with ⟨c, lexeme, hlexeme⟩
            have hdigit : c.isDigit = true := hdigits c (by simp [hlexeme])
            simp [text, Piece.text, hlexeme, hdigit, hnumber]
          · have hnumber : piece.token.kind ≠ .number := by
              intro hnumber
              simp [hnumber, Kind.ofSign?_eq_some_iff] at hsign
            simp [text, Piece.text, hlexeme, hdigit, hnumber]

namespace Cursor

theorem scan_foreign (offset : Nat) (text : List Char) :
    (Cursor.mk offset text).scan.foreign = text.find? isForeign := by
  induction text using scan_induction generalizing offset with
  | token blanks token tail hblanks hspelled htail ih =>
      have hskip : blanks.find? isForeign = none := by
        simpa using fun c hc => isForeign_eq_false_of_isBlank (hblanks c hc)
      have hlexeme : token.lexeme.toList.find? isForeign = none := by
        simpa using fun c hc => hspelled.not_isForeign hc
      rw [scan_of_token (next_spelled offset hblanks hspelled htail), ih]
      simp [hskip, hlexeme]
  | foreign blanks c tail hblanks hforeign =>
      have hskip : blanks.find? isForeign = none := by
        simpa using fun c hc => isForeign_eq_false_of_isBlank (hblanks c hc)
      rw [scan_of_foreign (next_foreign offset hblanks hforeign)]
      simp [hskip, hforeign]
  | done blanks hblanks =>
      have hskip : blanks.find? isForeign = none := by
        simpa using fun c hc => isForeign_eq_false_of_isBlank (hblanks c hc)
      rw [scan_of_done (next_blanks offset hblanks), hskip]

theorem exists_layout_of_scan {offset : Nat} {text : List Char}
    (hclean : (Cursor.mk offset text).scan.foreign = none) :
    ∃ layout : Layout, layout.text = text ∧
      layout.tokens = (Cursor.mk offset text).scan.found.map Located.token := by
  induction text using scan_induction generalizing offset with
  | token blanks token tail hblanks hspelled htail ih =>
      rw [scan_of_token (next_spelled offset hblanks hspelled htail)] at hclean ⊢
      rcases ih hclean with ⟨behind, rfl, htokens⟩
      have hapart : (Piece.mk token behind.lead hspelled behind.blank ::
          behind.pieces).IsChain Piece.Apart := by
        refine List.isChain_cons.mpr ⟨?_, behind.apart⟩
        intro next hnext hnumber
        exact behind.head?_not_isDigit_iff.mp (htail hnumber) next hnext
      refine ⟨⟨blanks, _, hblanks, hapart⟩, ?_, ?_⟩
      · simp [Layout.text, Piece.text]
      · simpa [Layout.tokens] using htokens
  | foreign blanks c tail hblanks hforeign =>
      simp [scan_of_foreign (next_foreign offset hblanks hforeign)] at hclean
  | done blanks hblanks =>
      rw [scan_of_done (next_blanks offset hblanks)]
      exact ⟨⟨blanks, [], hblanks, .nil⟩, by simp [Layout.text],
        by simp [Layout.tokens]⟩

theorem scan_layout (layout : Layout) (offset : Nat) :
    (Cursor.mk offset layout.text).scan.foreign = none ∧
      (Cursor.mk offset layout.text).scan.found.map Located.token =
        layout.tokens := by
  rcases layout with ⟨lead, pieces, hblank, hapart⟩
  induction pieces generalizing lead offset with
  | nil =>
      have hdone := next_blanks offset hblank
      simp [Layout.text, Layout.tokens, scan_of_done hdone]
  | cons piece pieces ih =>
      rcases List.isChain_cons.mp hapart with ⟨hfirst, hrest⟩
      have htail : piece.token.kind = .number → ∀ c ∈
          (piece.gap ++ pieces.flatMap Piece.text).head?, c.isDigit = false := by
        intro hnumber
        exact (Layout.mk piece.gap pieces piece.blank hrest).head?_not_isDigit_iff.mpr
          fun next hnext => hfirst next hnext hnumber
      have hnext := next_spelled offset hblank piece.spelled htail
      have htext : lead ++ (piece :: pieces).flatMap Piece.text = lead ++
          (piece.token.lexeme.toList ++
            (piece.gap ++ pieces.flatMap Piece.text)) := by
        simp [Piece.text]
      simp only [Layout.text, Layout.tokens, htext, scan_of_token hnext]
      rcases ih _ piece.gap piece.blank hrest with ⟨hclean, htokens⟩
      simp only [Layout.text, Layout.tokens] at htokens
      exact ⟨hclean, by simpa using htokens⟩

end Cursor

namespace Line

theorem tokens_outcome_eq_ok_iff {source : String} {tokens : List Token} :
    (Line.tokens source).outcome = .ok tokens ↔
      ∃ layout : Layout, layout.text = source.toList ∧ layout.tokens = tokens := by
  have hok : (Line.tokens source).outcome = .ok tokens ↔
      (Scan.ofString source).foreign = none ∧
        (Scan.ofString source).found.map Located.token = tokens := by
    simp only [Line.tokens, Scan.tokens]
    cases (Scan.ofString source).foreign <;> simp [Except.mapError]
  rw [hok, Scan.ofString, Cursor.start]
  constructor
  · rintro ⟨hclean, rfl⟩
    exact Cursor.exists_layout_of_scan hclean
  · rintro ⟨layout, htext, rfl⟩
    rw [← htext]
    exact Cursor.scan_layout layout 0

theorem tokens_outcome_eq_error_iff {source : String} {fault : Fault} :
    (Line.tokens source).outcome = .error fault ↔
      ∃ c, fault = .foreign c ∧ source.toList.find? isForeign = some c := by
  simp only [Line.tokens, Scan.tokens, Scan.ofString, Cursor.start,
    Cursor.scan_foreign]
  cases source.toList.find? isForeign <;> simp [Except.mapError, eq_comm]

/-- The tokens of a line are those it is laid out from.  A line that is no
layout fails at its first foreign character, and there is no other failure. -/
theorem tokens_outcome (source : String) :
    (∀ tokens, (Line.tokens source).outcome = .ok tokens ↔
        ∃ layout : Layout, layout.text = source.toList ∧
          layout.tokens = tokens) ∧
      (∀ c, (Line.tokens source).outcome = .error (.foreign c) ↔
        ∃ before after, source.toList = before ++ c :: after ∧
          isForeign c = true ∧ ∀ earlier ∈ before, isForeign earlier = false) ∧
      ∀ fault, (Line.tokens source).outcome = .error fault →
        ∃ c, fault = .foreign c := by
  refine ⟨fun tokens => tokens_outcome_eq_ok_iff, ?_, ?_⟩
  · intro c
    rw [tokens_outcome_eq_error_iff]
    simp only [Fault.foreign.injEq, exists_eq_left',
      List.find?_eq_some_iff_append, Bool.not_eq_true']
    constructor
    · rintro ⟨hforeign, before, after, htext, hbefore⟩
      exact ⟨before, after, htext, hforeign, hbefore⟩
    · rintro ⟨before, after, htext, hforeign, hbefore⟩
      exact ⟨hforeign, before, after, htext, hbefore⟩
  · intro fault hfault
    rcases tokens_outcome_eq_error_iff.mp hfault with ⟨c, hc, _⟩
    exact ⟨c, hc⟩

end Line

end LineCalculator
