import LineCalculator.Text.CodePoint

/-!
# Blank characters

Blanks separate tokens and mean nothing themselves.  They are the characters
of the Unicode property White_Space, which is larger than the set that
`Char.isWhitespace` knows: it has the no-break space, the typographic spaces
and the line and paragraph separators as well.
-/

namespace LineCalculator

/-- The code points of White_Space, as ascending ranges with both ends
included. -/
def blankRanges : List (Nat × Nat) :=
  [(0x9, 0xD), (0x20, 0x20), (0x85, 0x85), (0xA0, 0xA0), (0x1680, 0x1680),
    (0x2000, 0x200A), (0x2028, 0x2029), (0x202F, 0x202F), (0x205F, 0x205F),
    (0x3000, 0x3000)]

def isBlank (c : Char) : Bool :=
  isAmong blankRanges c

theorem isBlank_eq_false_of_isDigit {c : Char} (h : c.isDigit = true) :
    isBlank c = false := by
  simp only [Char.isDigit, Bool.and_eq_true, decide_eq_true_eq, ge_iff_le,
    UInt32.le_iff_toNat_le] at h
  change 48 ≤ c.toNat ∧ c.toNat ≤ 57 at h
  simp [isBlank, isAmong, isWithin, blankRanges]
  omega

end LineCalculator
