import ApexOutline.Text.Blank
import ApexOutline.Text.Word
/-!
# Annotations

A declaration may be preceded by annotations such as `@IsTest(SeeAllData=true)`. They are dropped
before a line is read any further. An argument list belongs to its annotation only when it is closed
and holds nothing but the allowed characters; otherwise the name alone is dropped.
-/

namespace ApexOutline.Annotations

open Text

/-- Characters allowed between the parentheses of an argument list. -/
def isArgument (c : Char) : Bool :=
  isWord c || isBlank c || ".'\"*=,/:".toList.contains c

/-- What follows the argument list that opens a text, blanks before it included. -/
def afterArguments? (t : Text) : Option Text :=
  match trimStart t with
  | '(' :: r =>
    match r.dropWhile isArgument with
    | ')' :: rest => some rest
    | _ => none
  | _ => none

/-- What follows the annotation that opens a line, together with the blanks around it. -/
def after? (line : Text) : Option Text :=
  match trimStart line with
  | '@' :: c :: r =>
    if isWord c then
      let rest := r.dropWhile isWord
      some (trimStart ((afterArguments? rest).getD rest))
    else none
  | _ => none

/-- Drops at most `n` annotations from the start of a line. -/
def stripUpTo : Nat → Text → Text
  | 0, line => line
  | n + 1, line =>
    match after? line with
    | some rest => stripUpTo n rest
    | none => line

/-- The most annotations that are dropped from one line. -/
def limit : Nat := 100

/-- Drops the annotations that open a line. A line that opens with none is left untouched. -/
def strip (line : Text) : Text :=
  stripUpTo limit line

end ApexOutline.Annotations
