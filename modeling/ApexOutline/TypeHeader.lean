import ApexOutline.Annotations
import ApexOutline.Text.Folding
import ApexOutline.Text.Lowercase
/-!
# Type headers

A type header is a line that declares a class, an interface or an enum: modifiers, the keyword, and
the name. Keywords are compared by case folding and may only be preceded by modifiers, so a literal
such as `Foo.class` is no header. The three looser tests at the end ask whether a line mentions a
keyword at all.
-/

namespace ApexOutline

open Text

/-- The keyword that declares a type. -/
inductive TypeKeyword where
  | classWord
  | interfaceWord
  | enumWord
  deriving DecidableEq, Repr

/-- The spelling of a keyword. -/
def TypeKeyword.text : TypeKeyword → Text
  | .classWord => "class".toList
  | .interfaceWord => "interface".toList
  | .enumWord => "enum".toList

/-- The keyword that a word spells, up to case. -/
def TypeKeyword.ofWord? (word : Text) : Option TypeKeyword :=
  [.classWord, .interfaceWord, .enumWord].find? fun k => foldsTo k.text word

/-- What a type header declares. -/
structure TypeHeader where
  keyword : TypeKeyword
  name : Text
  deriving DecidableEq, Repr

namespace TypeHeader

/-- The modifiers that may precede the keyword. -/
def modifiers : List Text :=
  ["global".toList, "public".toList, "private".toList, "protected".toList, "abstract".toList,
   "virtual".toList, "with".toList, "without".toList, "inherited".toList, "sharing".toList,
   "static".toList, "final".toList, "transient".toList]

/-- Whether a word is one of the modifiers, up to case. -/
def isModifier (word : Text) : Bool :=
  modifiers.any (foldsTo · word)

/-- Reads a header off the words of a line: the name is the longest run of word characters that
opens the word after the keyword, and there is one. -/
def ofWords? (words : List Text) : Option TypeHeader :=
  match words.dropWhile isModifier with
  | word :: next :: _ =>
    match TypeKeyword.ofWord? word, next.takeWhile isWord with
    | some keyword, c :: name => some ⟨keyword, c :: name⟩
    | _, _ => none
  | _ => none

/-- The header that a line is, annotations dropped. -/
def ofLine? (line : Text) : Option TypeHeader :=
  ofWords? (words (Annotations.strip line))

end TypeHeader

/-- Whether a line mentions the keyword `interface`. -/
def mentionsInterface (line : Text) : Bool :=
  hasWord "interface".toList (lower line)

/-- Whether a line mentions the keyword `class` or `interface`. -/
def mentionsClassOrInterface (line : Text) : Bool :=
  hasWord "class".toList (lower line) || mentionsInterface line

/-- Whether a text starts with `enum` and the word ends there. -/
def startsWithEnum (t : Text) : Bool :=
  match after? "enum".toList t with
  | some [] => true
  | some (c :: _) => !isWord c
  | none => false

/-- Whether a text starts with `enum`, possibly after one access modifier and blanks. -/
def opensEnum (line : Text) : Bool :=
  let t := lower (trim (Annotations.strip line))
  startsWithEnum t ||
    ["global".toList, "public".toList, "private".toList].any fun access =>
      match after? access t with
      | some (c :: rest) => isBlank c && startsWithEnum (trimStart rest)
      | _ => false

end ApexOutline
