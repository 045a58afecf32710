import ApexOutline.Text.Basic
import ApexOutline.Text.Alphabetic
import ApexOutline.Text.Mark
import ApexOutline.Text.Number
import ApexOutline.Text.Recent
/-!
# Word characters

Two notions of a character that belongs to a word. `isWord` decides word boundaries and the names
of annotations and types; `isIdentifier` decides how far a cursor inside a name reaches. They differ
on marks, joiners and on numbers that are not digits, and only the second one knows the characters
that are recent.
-/

namespace ApexOutline.Text

/-- Connector punctuation beyond ASCII, which joins words as the underscore does. -/
def connectors : Ranges :=
  [(0x203f, 0x2040), (0x2054, 0x2054), (0xfe33, 0xfe34), (0xfe4d, 0xfe4f), (0xff3f, 0xff3f)]

/-- The two zero-width characters that control joining. -/
def joiners : Ranges :=
  [(0x200c, 0x200d)]

/-- Whether a character is a decimal digit of some script, recent ones left out. -/
def isDecimal (c : Char) : Bool :=
  decimals.covers c && !recent.covers c

/-- Word characters: letters, marks, digits, connectors and joiners, recent ones left out. -/
def isWord (c : Char) : Bool :=
  if isAscii c then c.isAlphanum || c == '_'
  else
    (alphabetic.covers c || marks.covers c || decimals.covers c || connectors.covers c ||
      joiners.covers c) && !recent.covers c

/-- Identifier characters: letters, numbers of every kind, and the underscore. -/
def isIdentifier (c : Char) : Bool :=
  if isAscii c then c.isAlphanum || c == '_'
  else alphabetic.covers c || decimals.covers c || otherNumbers.covers c

/-- Whether `word`, which consists of word characters, stands in the text with a word boundary on
both sides: it is then one of the runs of word characters. -/
def hasWord (word t : Text) : Bool :=
  (runs isWord t).contains word

end ApexOutline.Text
