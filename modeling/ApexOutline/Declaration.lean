import ApexOutline.Text.Cursor
import ApexOutline.TypeHeader
/-!
# Declarations

A declaration is a kept line with what is read off it: its kind and name, and where it stands.
-/

namespace ApexOutline

open Text

/-- What a declaration declares. -/
inductive Declaration.Kind where
  | type (keyword : TypeKeyword)
  | constructor
  | method
  | property
  deriving DecidableEq, Repr

/-- Whether a declaration opens a type. -/
def Declaration.Kind.isType : Kind → Bool
  | .type _ => true
  | _ => false

/-- The spelling of a kind. -/
def Declaration.Kind.text : Kind → Text
  | .type keyword => keyword.text
  | .constructor => "constructor".toList
  | .method => "method".toList
  | .property => "property".toList

/-- All kinds. -/
def Declaration.Kind.all : List Kind :=
  [.type .classWord, .type .interfaceWord, .type .enumWord, .constructor, .method, .property]

/-- A declaration found in a source text. -/
structure Declaration where
  kind : Declaration.Kind
  /-- The declared name, when one can be read off the line. -/
  name : Option Text
  /-- The access scope, when one is determined. -/
  scope : Option Text
  /-- The number of the line, counted from one. -/
  lineNumber : Nat
  /-- The line with the blanks around it dropped. -/
  signature : Text
  /-- The dotted name of the enclosing type. -/
  parent : Option Text
  /-- The text of the doc comment above. -/
  docComment : Option Text
  /-- The links in the doc comment. -/
  links : List Text
  deriving DecidableEq, Repr

namespace Declaration

/-- A word, unless it is empty. -/
def nonEmpty? (word : Text) : Option Text :=
  if word.isEmpty then none else some word

/-- Characters that end the part of a field or property in which its name stands. -/
def endsName (c : Char) : Bool :=
  c == '=' || c == ';' || c == '{'

/-- The kind and name of a line that is no type header, annotations and outer blanks dropped. A line
with a parenthesis is a method, or a constructor when its name is the lowercase name `enclosing` of
the type around it; any other line is a property. -/
def memberOf (stripped : Text) (enclosing : Option Text) : Kind × Option Text :=
  if stripped.contains '(' then
    let name := nonEmpty? (wordBefore stripped (stripped.takeWhile (· != '(')).length)
    (if name.isSome && name.map lower == enclosing then .constructor else .method, name)
  else
    (.property, nonEmpty? (wordBefore stripped (stripped.takeWhile (!endsName ·)).length))

/-- The kind and name that a kept line declares. -/
def kindAndName (line : Text) (enclosing : Option Text) : Kind × Option Text :=
  match TypeHeader.ofLine? line with
  | some header => (.type header.keyword, some header.name)
  | none => memberOf (trim (Annotations.strip line)) enclosing

end Declaration

end ApexOutline
