import LineCalculator.Proofs.Token.Layout
import LineCalculator.Session
import Mathlib.Tactic

/-!
# Texts in bytes

The bytes of a character other than the newline do not hold the byte of the
newline.  That is why cutting the bytes of a text at newlines cuts the text
itself.
-/

namespace LineCalculator

def utf8 (text : String) : List UInt8 :=
  text.toList.flatMap String.utf8EncodeChar

/-- Whether bytes encode a text. -/
def IsUTF8 (bytes : List UInt8) : Prop :=
  ∃ text, utf8 text = bytes

theorem utf8_append (first second : String) :
    utf8 (first ++ second) = utf8 first ++ utf8 second := by
  simp [utf8]

@[simp] theorem utf8_empty : utf8 "" = [] := rfl

theorem utf8_newline : utf8 "\n" = [newline] := by decide

theorem utf8_ne_nil {text : String} (hne : text ≠ "") : utf8 text ≠ [] := by
  obtain ⟨c, chars, htext⟩ :=
    List.exists_cons_of_ne_nil (mt String.toList_eq_nil_iff.mp hne)
  simp [utf8, htext, String.utf8EncodeChar_ne_nil]

theorem newline_mem_utf8EncodeChar_iff {c : Char} :
    newline ∈ String.utf8EncodeChar c ↔ c = '\n' := by
  constructor
  · intro hmem
    have hcode : c.val.toNat = 10 := by
      rw [String.utf8EncodeChar.eq_1] at hmem
      split_ifs at hmem <;>
        simp only [List.mem_cons, List.not_mem_nil, or_false, newline,
          ← UInt8.toNat_inj, UInt8.toNat_ofNat, UInt8.toNat_ofNat'] at hmem <;>
        omega
    exact Char.ext (UInt32.toNat_inj.mp hcode)
  · intro hnewline
    rw [hnewline]
    decide

theorem newline_mem_utf8_iff {text : String} :
    newline ∈ utf8 text ↔ '\n' ∈ text.toList := by
  simp [utf8, newline_mem_utf8EncodeChar_iff]

/-- The newline that ends the first line of the bytes is one of the text. -/
theorem eq_append_newline_of_utf8 {whole : String} {before after : List UInt8}
    (hbefore : newline ∉ before)
    (hwhole : utf8 whole = before ++ newline :: after) :
    ∃ text rest, whole = text ++ "\n" ++ rest ∧ utf8 text = before ∧
      utf8 rest = after := by
  have hmem : '\n' ∈ whole.toList := by
    rw [← newline_mem_utf8_iff, hwhole]
    simp
  obtain ⟨chars, others, hchars, hfree⟩ := List.eq_append_cons_of_mem hmem
  have hsplit : whole = String.ofList chars ++ "\n" ++ String.ofList others := by
    apply String.toList_inj.mp
    simp [hchars]
  have hbytes : utf8 (String.ofList chars) ++ newline :: utf8 (String.ofList others) =
      before ++ newline :: after := by
    rw [← hwhole, hsplit, utf8_append, utf8_append, utf8_newline]
    simp
  have hfreeBytes : newline ∉ utf8 (String.ofList chars) := by
    rw [newline_mem_utf8_iff]
    simpa using hfree
  obtain ⟨htext, hrest⟩ := append_separator_inj hfreeBytes hbefore hbytes
  exact ⟨_, _, hsplit, htext, hrest⟩

theorem fromUTF8?_eq_some_iff {bytes : List UInt8} {text : String} :
    String.fromUTF8? bytes.toByteArray = some text ↔ utf8 text = bytes := by
  have hbytes : text.toByteArray = (utf8 text).toByteArray :=
    String.utf8Encode_toList.symm
  rw [← List.toByteArray_inj, ← hbytes, String.fromUTF8?]
  split
  · rw [Option.some.injEq, ← String.toByteArray_inj, eq_comm]
    rfl
  · rename_i hinvalid
    simp only [reduceCtorEq, false_iff]
    intro htext
    exact hinvalid (htext ▸ text.isValidUTF8)

theorem fromUTF8?_eq_none_iff {bytes : List UInt8} :
    String.fromUTF8? bytes.toByteArray = none ↔ ¬IsUTF8 bytes := by
  rw [Option.eq_none_iff_forall_ne_some]
  simp [fromUTF8?_eq_some_iff, IsUTF8]

end LineCalculator
