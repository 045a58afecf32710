import ApexOutline.Text.Url
/-!
# Doc comments

A doc comment is written `/** ... */`, with stars decorating its lines. Its text is what remains of
the lines, and its links are the URLs among its words.
-/

namespace ApexOutline.DocComment

open Text

/-- The text of one line of a doc comment: the closing mark, leading stars and outer blanks dropped. -/
def lineText (line : Text) : Text :=
  let trimmed := trim line
  trim (((before? "*/".toList trimmed).getD trimmed).dropWhile (· == '*'))

/-- The text of a doc comment from the texts of its lines; there is none when all is blank. -/
def ofLines? (lines : List Text) : Option Text :=
  match trim (join ['\n'] lines) with
  | [] => none
  | c :: r => some (c :: r)

/-- Punctuation that may stand around a link. -/
def isAroundLink (c : Char) : Bool :=
  "()<>.,;".toList.contains c

/-- The links of a text, in order. -/
def links (doc : Text) : List Text :=
  ((words doc).map (dropAround isAroundLink)).filter isUrl

end ApexOutline.DocComment
