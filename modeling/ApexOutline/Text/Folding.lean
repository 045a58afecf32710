import ApexOutline.Text.Basic
/-!
# Case folding

Keywords are compared with source text by simple case folding. The keywords are ASCII, and beside
the ASCII letters only the long s and the Kelvin sign fold to an ASCII letter.
-/

namespace ApexOutline.Text

/-- Simple case folding, as far as it yields ASCII letters. -/
def fold (c : Char) : Char :=
  if c == 'ſ' then 's' else if c == '\u212a' then 'k' else c.toLower

/-- Whether a text is the lowercase ASCII `word` up to case folding. -/
def foldsTo (word t : Text) : Bool :=
  t.map fold == word

end ApexOutline.Text
