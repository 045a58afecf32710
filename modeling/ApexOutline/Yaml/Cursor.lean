import ApexOutline.Text.Basic
/-!
# Reading YAML characters

A cursor is what is left of a text together with the place it has reached. Indentation is part of
the format, so columns are kept.
-/

namespace ApexOutline.Yaml

open Text

/-- Characters that a document may hold. -/
def isAllowed (c : Char) : Bool :=
  let n := c.toNat
  n == 0x09 || n == 0x0a || n == 0x0d || (0x20 ≤ n && n ≤ 0x7e) || n == 0x85 ||
    (0xa0 ≤ n && n ≤ 0xfffd) || 0x10000 ≤ n

/-- A space or a tab. -/
def isSpace (c : Char) : Bool :=
  c == ' ' || c == '\t'

/-- A line break: carriage return, line feed, next line, line and paragraph separator. -/
def isBreak (c : Char) : Bool :=
  c == '\r' || c == '\n' || c == '\x85' || c == '\u2028' || c == '\u2029'

/-- Characters of names: of anchors, tag handles and directives. -/
def isName (c : Char) : Bool :=
  c.isAlphanum || c == '_' || c == '-'

/-- Whether a text is at its end or at the end of a line. -/
def atLineEnd : Text → Bool
  | [] => true
  | c :: _ => isBreak c

/-- Whether a text is at its end, at the end of a line, or at a space. -/
def atGap : Text → Bool
  | [] => true
  | c :: _ => isSpace c || isBreak c

/-- The number of bytes that a text takes up. -/
def byteLength (t : Text) : Nat :=
  t.foldl (fun n c => n + c.utf8Size) 0

/-- What is left of a text, and the place reached. The index counts bytes, the column counts
characters. -/
structure Cursor where
  rest : Text
  index : Nat := 0
  line : Nat := 0
  column : Nat := 0
  deriving Repr

namespace Cursor

/-- Passes over `n` characters of the line. -/
def advance (cur : Cursor) (n : Nat) : Cursor :=
  { cur with
    rest := cur.rest.drop n
    index := cur.index + byteLength (cur.rest.take n)
    column := cur.column + n }

/-- Passes over the characters that satisfy `p`. -/
def skipWhile (cur : Cursor) (p : Char → Bool) : Cursor :=
  cur.advance (cur.rest.takeWhile p).length

/-- Goes on to where `rest`, an end of the text on this line, starts. -/
def goTo (cur : Cursor) (rest : Text) : Cursor :=
  cur.advance (cur.rest.length - rest.length)

/-- Reads a line break: what it counts as in a scalar, and the cursor behind it. -/
def readBreak (cur : Cursor) : Text × Cursor :=
  let next (mark rest : Text) : Cursor :=
    { rest, index := cur.index + byteLength mark, line := cur.line + 1, column := 0 }
  match cur.rest with
  | '\r' :: '\n' :: r => (['\n'], next ['\r', '\n'] r)
  | c :: r =>
    if c == '\u2028' || c == '\u2029' then ([c], next [c] r)
    else if isBreak c then (['\n'], next [c] r)
    else ([], cur)
  | [] => ([], cur)

/-- Passes over a line break. -/
def skipBreak (cur : Cursor) : Cursor :=
  cur.readBreak.2

/-- Passes over spaces and a comment up to the end of the line, which must come next, and over the
line break. -/
def skipLineEnd? (cur : Cursor) : Option Cursor :=
  let spaces := cur.skipWhile isSpace
  let stop := if spaces.rest.head? = some '#' then spaces.skipWhile (!isBreak ·) else spaces
  if atLineEnd stop.rest then some stop.skipBreak else none

/-- Whether the marks `---` or `...` stand here at the start of a line. -/
def atDocumentMark (cur : Cursor) (mark : Char) : Bool :=
  cur.column == 0 && [mark, mark, mark].isPrefixOf cur.rest && atGap (cur.rest.drop 3)

/-- Whether either mark of a document stands here. -/
def atAnyDocumentMark (cur : Cursor) : Bool :=
  cur.atDocumentMark '-' || cur.atDocumentMark '.'

end Cursor

end ApexOutline.Yaml
