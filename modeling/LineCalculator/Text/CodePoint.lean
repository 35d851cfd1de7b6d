/-!
# Code points

A class of characters is given by the code points that it holds, mostly as
ranges with both ends included.
-/

namespace LineCalculator

/-- Whether the code point of `c` lies between two others, both included. -/
def isWithin (first last : Nat) (c : Char) : Bool :=
  first ≤ c.toNat && c.toNat ≤ last

def isAscii (c : Char) : Bool :=
  isWithin 0 0x7F c

def isAmong (ranges : List (Nat × Nat)) (c : Char) : Bool :=
  ranges.any fun range => isWithin range.1 range.2 c

end LineCalculator
