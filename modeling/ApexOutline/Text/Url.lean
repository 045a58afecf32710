import ApexOutline.Text.Blank
import ApexOutline.Text.Word
/-!
# Web links

A link is an `http` or `https` URL: a host, then optionally a number after a colon, a path, a
query and a fragment, each with its own set of characters, and nothing after them.
-/

namespace ApexOutline.Text

/-- Characters of a host. -/
def isHostChar (c : Char) : Bool :=
  c.isAlphanum || "-._~".toList.contains c

/-- Characters of a path. -/
def isPathChar (c : Char) : Bool :=
  isHostChar c || "%!$&'()*+,;=:@/".toList.contains c

/-- Characters of a query or a fragment. -/
def isQueryChar (c : Char) : Bool :=
  isPathChar c || c == '?'

/-- Drops `mark` and the characters of `p` after it, when the text starts with `mark`. -/
def dropPart (mark : Char) (p : Char → Bool) : Text → Text
  | [] => []
  | c :: r => if c == mark then r.dropWhile p else c :: r

/-- Drops a colon and the digits after it, of which there is at least one. -/
def dropColonNumber : Text → Text
  | ':' :: c :: r => if isDecimal c then r.dropWhile isDecimal else ':' :: c :: r
  | t => t

/-- Whether a text is a host with its optional parts and nothing else. -/
def isAuthorityAndRest (t : Text) : Bool :=
  let rest := t.dropWhile isHostChar
  rest.length < t.length &&
    (dropPart '#' isQueryChar
      (dropPart '?' isQueryChar (dropPart '/' isPathChar (dropColonNumber rest)))).isEmpty

/-- Whether a text, blanks around it dropped, is a link. -/
def isUrl (t : Text) : Bool :=
  let trimmed := trim t
  ["http://".toList, "https://".toList].any fun scheme =>
    (after? scheme trimmed).any isAuthorityAndRest

end ApexOutline.Text
