import ApexOutline.Text.Blank
/-!
# Keywords of members without an access modifier

A member written without an access modifier is recognised by the word that opens its line: a
modifier, a primitive type, or a parameterised collection. Lines are lowercased before.
-/

namespace ApexOutline

open Text

/-- What a keyword that opens a member is. -/
inductive Keyword.Category where
  | modifier
  | primitive
  | collection
  deriving DecidableEq, Repr

namespace Keyword

/-- The categories in the order in which they are listed. -/
def categories : List Category :=
  [.modifier, .primitive, .collection]

/-- The name of a category. -/
def Category.name : Category → String
  | .modifier => "Modifier"
  | .primitive => "Primitive"
  | .collection => "Collection"

/-- The keywords of a category. -/
def Category.words : Category → List Text
  | .modifier => ["abstract".toList, "final".toList, "virtual".toList, "override".toList]
  | .primitive =>
    ["void".toList, "blob".toList, "boolean".toList, "date".toList, "datetime".toList,
     "decimal".toList, "double".toList, "id".toList, "integer".toList, "long".toList,
     "object".toList, "string".toList, "time".toList]
  | .collection => ["list".toList, "set".toList, "map".toList]

/-- Whether a line starts with a non-empty word that a blank follows. -/
def opens (word line : Text) : Bool :=
  !word.isEmpty &&
    match after? word line with
    | some (c :: _) => isBlank c
    | _ => false

/-- Whether a line starts with a modifier or a primitive type that a blank follows. -/
def opensMember (line : Text) : Bool :=
  (Category.modifier.words ++ Category.primitive.words).any (opens · line)

/-- Whether a text starts with a parameter list in angle brackets that is not empty and ends on the
same line. -/
def startsWithParameters (t : Text) : Bool :=
  match t with
  | '<' :: r => ((r.takeWhile (· != '\n')).drop 1).contains '>'
  | _ => false

/-- Whether a line starts with a parameterised collection type. -/
def opensCollection (line : Text) : Bool :=
  Category.collection.words.any fun word =>
    match after? word line with
    | some rest => startsWithParameters (trimStart rest)
    | none => false

end Keyword

end ApexOutline
