/-!
# Character tables

A property of characters is given as a list of ranges of code points. Every table of this library
lists the ranges in ascending order and without gaps between neighbours that touch.
-/

namespace ApexOutline.Text

/-- Ranges of code points, both ends included. -/
abbrev Ranges := List (Nat × Nat)

/-- Whether a character lies in one of the ranges. -/
def Ranges.covers (ranges : Ranges) (c : Char) : Bool :=
  ranges.any fun r => r.1 ≤ c.toNat && c.toNat ≤ r.2

/-- Whether a character is one of the first 128. -/
def isAscii (c : Char) : Bool :=
  c.toNat < 128

end ApexOutline.Text
