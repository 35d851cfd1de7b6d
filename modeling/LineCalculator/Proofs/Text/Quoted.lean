import LineCalculator.Proofs.Token.Layout
import LineCalculator.Text.Quoted
import Mathlib.Tactic

/-!
# What a quotation tells

A quotation shows every character that it holds, and the text between its
quotes can be read back.  The first characters of an escape tell which of the
three forms it has, so it can be told apart from whatever stands behind it.
-/

namespace LineCalculator

/-! ## Hexadecimal digits -/

theorem exists_digit_of_mem_toDigits {number : Nat} {c : Char}
    (hc : c ∈ Nat.toDigits 16 number) : ∃ digit < 16, c = digit.digitChar := by
  induction number using Nat.strong_induction_on with
  | _ number ih =>
      rw [Nat.toDigits_eq_if (by decide)] at hc
      split at hc
      · exact ⟨number, ‹_›, by simpa using hc⟩
      · rw [List.mem_append, List.mem_singleton] at hc
        rcases hc with hfront | hlast
        · exact ih (number / 16) (by omega) hfront
        · exact ⟨number % 16, Nat.mod_lt _ (by decide), hlast⟩

theorem digitChar_inj_of_lt {first second : Nat} (hfirst : first < 16)
    (hsecond : second < 16) (hchar : first.digitChar = second.digitChar) :
    first = second := by
  have hall : ∀ a < 16, ∀ b < 16, Nat.digitChar a = Nat.digitChar b → a = b := by
    decide
  exact hall first hfirst second hsecond hchar

theorem toDigits_sixteen_injective : Function.Injective (Nat.toDigits 16) := by
  intro first
  induction first using Nat.strong_induction_on with
  | _ first ih =>
      intro second hdigits
      have hlength := congrArg List.length hdigits
      rcases Nat.lt_or_ge first 16 with hfirst | hfirst
      · rw [Nat.toDigits_of_lt_base hfirst] at hdigits hlength
        rcases Nat.lt_or_ge second 16 with hsecond | hsecond
        · rw [Nat.toDigits_of_lt_base hsecond] at hdigits
          exact digitChar_inj_of_lt hfirst hsecond (List.singleton_inj.mp hdigits)
        · rw [Nat.toDigits_of_base_le (by decide) hsecond] at hlength
          simp [Nat.toDigits_ne_nil] at hlength
      · rw [Nat.toDigits_of_base_le (by decide) hfirst] at hdigits hlength
        rcases Nat.lt_or_ge second 16 with hsecond | hsecond
        · rw [Nat.toDigits_of_lt_base hsecond] at hlength
          simp [Nat.toDigits_ne_nil] at hlength
        · rw [Nat.toDigits_of_base_le (by decide) hsecond] at hdigits
          obtain ⟨hfront, hlast⟩ := List.append_inj' hdigits rfl
          have hquotient := ih (first / 16) (by omega) hfront
          have hremainder := digitChar_inj_of_lt (Nat.mod_lt _ (by decide))
            (Nat.mod_lt _ (by decide)) (List.singleton_inj.mp hlast)
          omega

/-! ## Escapes -/

variable {quote : Char}

theorem escaped_cases (quote c : Char) :
    (∃ letter, escapeLetter? quote c = some letter ∧
        escaped quote c = [escapeMark, letter]) ∨
      escapeLetter? quote c = none ∧
        (escaped quote c = numericEscape c ∨
          isHidden c = false ∧ escaped quote c = [c]) := by
  cases hletter : escapeLetter? quote c with
  | some letter => exact .inl ⟨letter, rfl, by simp [escaped, hletter]⟩
  | none =>
      refine .inr ⟨rfl, ?_⟩
      cases hhidden : isHidden c with
      | true => exact .inl (by simp [escaped, hletter, hhidden])
      | false => exact .inr ⟨rfl, by simp [escaped, hletter, hhidden]⟩

theorem ne_of_escapeLetter?_eq_none {c : Char}
    (hletter : escapeLetter? quote c = none) : c ≠ quote ∧ c ≠ escapeMark := by
  by_contra hmark
  have hspecial : c = quote ∨ c = escapeMark := by tauto
  simp [escapeLetter?, hspecial] at hletter

/-- The quotes that diagnostics use. -/
def IsQuote (quote : Char) : Prop :=
  quote = '"' ∨ quote = '\''

theorem IsQuote.letter_shown {c letter : Char} (hquote : IsQuote quote)
    (hletter : escapeLetter? quote c = some letter) :
    isHidden letter = false ∧ letter ≠ 'u' := by
  have hshown : ∀ d ∈ ['"', '\'', escapeMark, '0', 't', 'n', 'r'],
      isHidden d = false ∧ d ≠ 'u' := by
    simp [isHidden, isAscii, isWithin, escapeMark]
  apply hshown
  rcases hquote with rfl | rfl <;> grind [escapeLetter?]

theorem IsQuote.escapeLetter?_inj {first second letter : Char}
    (hquote : IsQuote quote)
    (hfirst : escapeLetter? quote first = some letter)
    (hsecond : escapeLetter? quote second = some letter) : first = second := by
  rcases hquote with rfl | rfl <;> grind [escapeLetter?, escapeMark]

theorem numericEscape_append_inj {first second : Char} {rest others : List Char}
    (htext : numericEscape first ++ rest = numericEscape second ++ others) :
    first = second ∧ rest = others := by
  have hbrace : ∀ c : Char, '\x7d' ∉ Nat.toDigits 16 c.toNat := by
    intro c hmem
    obtain ⟨digit, hdigit, hchar⟩ := exists_digit_of_mem_toDigits hmem
    have hnone : ∀ d < 16, '\x7d' ≠ Nat.digitChar d := by decide
    exact hnone digit hdigit hchar
  simp only [numericEscape, List.cons_append, List.append_assoc,
    List.cons.injEq, true_and, List.nil_append] at htext
  obtain ⟨hdigits, hrest⟩ := append_separator_inj (hbrace first) (hbrace second)
    htext
  exact ⟨Char.toNat_inj.mp (toDigits_sixteen_injective hdigits), hrest⟩

namespace IsQuote

theorem escaped_append_inj (hquote : IsQuote quote) {first second : Char}
    {rest others : List Char}
    (htext : escaped quote first ++ rest = escaped quote second ++ others) :
    first = second ∧ rest = others := by
  rcases escaped_cases quote first with
    ⟨letter, hletter, hform⟩ | ⟨hfirst, hform | ⟨_, hform⟩⟩
  · rcases escaped_cases quote second with
      ⟨other, hother, hotherForm⟩ | ⟨hsecond, hotherForm | ⟨_, hotherForm⟩⟩
    · simp only [hform, hotherForm, List.cons_append, List.nil_append,
        List.cons.injEq, true_and] at htext
      obtain ⟨rfl, hrest⟩ := htext
      exact ⟨hquote.escapeLetter?_inj hletter hother, hrest⟩
    · simp only [hform, hotherForm, numericEscape, List.cons_append,
        List.cons.injEq, true_and] at htext
      exact absurd htext.1 (hquote.letter_shown hletter).2
    · simp only [hform, hotherForm, List.cons_append, List.cons.injEq] at htext
      exact absurd htext.1.symm (ne_of_escapeLetter?_eq_none hsecond).2
  · rcases escaped_cases quote second with
      ⟨other, hother, hotherForm⟩ | ⟨hsecond, hotherForm | ⟨_, hotherForm⟩⟩
    · simp only [hform, hotherForm, numericEscape, List.cons_append,
        List.cons.injEq, true_and] at htext
      exact absurd htext.1.symm (hquote.letter_shown hother).2
    · rw [hform, hotherForm] at htext
      exact numericEscape_append_inj htext
    · simp only [hform, hotherForm, numericEscape, List.cons_append,
        List.cons.injEq] at htext
      exact absurd htext.1.symm (ne_of_escapeLetter?_eq_none hsecond).2
  · rcases escaped_cases quote second with
      ⟨other, hother, hotherForm⟩ | ⟨hsecond, hotherForm | ⟨_, hotherForm⟩⟩
    · simp only [hform, hotherForm, List.cons_append, List.cons.injEq] at htext
      exact absurd htext.1 (ne_of_escapeLetter?_eq_none hfirst).2
    · simp only [hform, hotherForm, numericEscape, List.cons_append,
        List.cons.injEq] at htext
      exact absurd htext.1 (ne_of_escapeLetter?_eq_none hfirst).2
    · simpa [hform, hotherForm] using htext

/-- An escape does not begin like the closing quote. -/
theorem escaped_append_ne (hquote : IsQuote quote) (c : Char)
    (rest others : List Char) : escaped quote c ++ rest ≠ quote :: others := by
  have hmark : quote ≠ escapeMark := by
    rcases hquote with rfl | rfl <;> decide
  intro htext
  rcases escaped_cases quote c with
    ⟨letter, _, hform⟩ | ⟨hnone, hform | ⟨_, hform⟩⟩
  · rw [hform] at htext
    exact hmark (List.cons.inj htext).1.symm
  · rw [hform] at htext
    exact hmark (List.cons.inj htext).1.symm
  · rw [hform] at htext
    exact (ne_of_escapeLetter?_eq_none hnone).1 (List.cons.inj htext).1

theorem escapes_append_inj (hquote : IsQuote quote)
    {first second rest others : List Char}
    (htext : first.flatMap (escaped quote) ++ quote :: rest =
      second.flatMap (escaped quote) ++ quote :: others) :
    first = second ∧ rest = others := by
  induction first generalizing second with
  | nil =>
      cases second with
      | nil => simpa using htext
      | cons d second =>
          rw [List.flatMap_cons, List.append_assoc] at htext
          exact absurd htext.symm (hquote.escaped_append_ne d _ _)
  | cons c first ih =>
      cases second with
      | nil =>
          rw [List.flatMap_cons, List.append_assoc] at htext
          exact absurd htext (hquote.escaped_append_ne c _ _)
      | cons d second =>
          rw [List.flatMap_cons, List.flatMap_cons, List.append_assoc,
            List.append_assoc] at htext
          obtain ⟨rfl, hbehind⟩ := hquote.escaped_append_inj htext
          obtain ⟨rfl, hrest⟩ := ih hbehind
          exact ⟨rfl, hrest⟩

/-- A quotation can be read off the front of any text. -/
theorem quoted_append_inj (hquote : IsQuote quote)
    {first second rest others : List Char}
    (htext : (quoted quote first).toList ++ rest =
      (quoted quote second).toList ++ others) : first = second ∧ rest = others := by
  simp only [quoted, String.toList_ofList, List.cons_append, List.append_assoc,
    List.cons.injEq, true_and, List.nil_append] at htext
  exact hquote.escapes_append_inj htext

theorem isHidden_eq_false_of_mem_escaped (hquote : IsQuote quote) {c d : Char}
    (hd : d ∈ escaped quote c) : isHidden d = false := by
  have hmark : isHidden escapeMark = false := by decide
  rcases escaped_cases quote c with
    ⟨letter, hletter, hform⟩ | ⟨_, hform | ⟨hshown, hform⟩⟩
  · rw [hform, List.mem_pair] at hd
    rcases hd with rfl | rfl
    · exact hmark
    · exact (hquote.letter_shown hletter).1
  · have hdigits : ∀ digit < 16, isHidden (Nat.digitChar digit) = false := by decide
    simp only [hform, numericEscape, List.cons_append, List.mem_cons,
      List.mem_append, List.not_mem_nil, or_false] at hd
    rcases hd with rfl | rfl | rfl | hdigit | rfl
    · exact hmark
    · decide
    · decide
    · obtain ⟨digit, hlt, rfl⟩ := exists_digit_of_mem_toDigits hdigit
      exact hdigits digit hlt
    · decide
  · rw [hform, List.mem_singleton] at hd
    rwa [hd]

/-- No character of a quotation is hidden, whatever the text. -/
theorem isHidden_eq_false_of_mem_quoted (hquote : IsQuote quote)
    {text : List Char} {d : Char} (hd : d ∈ (quoted quote text).toList) :
    isHidden d = false := by
  have hend : isHidden quote = false := by
    rcases hquote with rfl | rfl <;> decide
  simp only [quoted, String.toList_ofList, List.cons_append, List.mem_cons,
    List.mem_append, List.mem_flatMap, List.not_mem_nil, or_false] at hd
  rcases hd with rfl | ⟨c, _, hescape⟩ | rfl
  · exact hend
  · exact hquote.isHidden_eq_false_of_mem_escaped hescape
  · exact hend

end IsQuote

theorem quotedText_append_inj {first second : String} {rest others : List Char}
    (htext : (quotedText first).toList ++ rest =
      (quotedText second).toList ++ others) : first = second ∧ rest = others := by
  have hquote : IsQuote '"' := .inl rfl
  obtain ⟨hchars, hrest⟩ := hquote.quoted_append_inj htext
  exact ⟨String.toList_inj.mp hchars, hrest⟩

theorem quotedChar_append_inj {first second : Char} {rest others : List Char}
    (htext : (quotedChar first).toList ++ rest =
      (quotedChar second).toList ++ others) : first = second ∧ rest = others := by
  have hquote : IsQuote '\'' := .inr rfl
  obtain ⟨hchars, hrest⟩ := hquote.quoted_append_inj htext
  exact ⟨List.singleton_inj.mp hchars, hrest⟩

theorem newline_not_mem_quotedText (text : String) :
    '\n' ∉ (quotedText text).toList := by
  intro hmem
  have hquote : IsQuote '"' := .inl rfl
  exact absurd (hquote.isHidden_eq_false_of_mem_quoted hmem) (by decide)

theorem newline_not_mem_quotedChar (c : Char) :
    '\n' ∉ (quotedChar c).toList := by
  intro hmem
  have hquote : IsQuote '\'' := .inr rfl
  exact absurd (hquote.isHidden_eq_false_of_mem_quoted hmem) (by decide)

end LineCalculator
