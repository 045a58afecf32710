import ApexOutline.Text.Basic
import ApexOutline.Text.Table
/-!
# Blanks

The characters of the property White_Space.
-/

namespace ApexOutline.Text

/-- The characters that count as blank: White_Space. -/
def blanks : Ranges :=
  [(0x9, 0xd), (0x20, 0x20), (0x85, 0x85), (0xa0, 0xa0), (0x1680, 0x1680), (0x2000, 0x200a),
   (0x2028, 0x2029), (0x202f, 0x202f), (0x205f, 0x205f), (0x3000, 0x3000)]

/-- Whether a character is blank. -/
def isBlank (c : Char) : Bool :=
  blanks.covers c

/-- Drops the blanks that open a text. -/
def trimStart (t : Text) : Text :=
  t.dropWhile isBlank

/-- Drops the blanks that end a text. -/
def trimEnd (t : Text) : Text :=
  dropWhileEnd isBlank t

/-- Drops the blanks around a text. -/
def trim (t : Text) : Text :=
  dropAround isBlank t

/-- The words of a text: its runs of characters that are not blank. -/
def words (t : Text) : List Text :=
  runs (!isBlank ·) t

end ApexOutline.Text
