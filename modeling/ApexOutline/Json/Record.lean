import ApexOutline.Json.Basic
import ApexOutline.Text.Digits
/-!
# Records in JSON

A record is given as an object with a member for each field, in any order and possibly with others,
or as an array of its fields in order. Either way its members are looked up by name. Decoding fails
as a whole, without saying where.
-/

namespace ApexOutline.Json

open Text

/-- The members of a record with the given fields. An array has exactly one item for each field. -/
def members? (fields : List String) : Json → Option (List (String × Json))
  | .object members => some members
  | .array items => if items.length = fields.length then some (fields.zip items) else none
  | _ => none

/-- The members of a record in which every field has a default: an array may end early. -/
def membersOrDefault? (fields : List String) : Json → Option (List (String × Json))
  | .object members => some members
  | .array items => if items.length ≤ fields.length then some (fields.zip items) else none
  | _ => none

/-- A field that has to be there. -/
def required {α : Type} (decode : Json → Option α) (members : List (String × Json))
    (field : String) : Option α :=
  (members.lookup field).bind decode

/-- A field that may be missing or null. -/
def optional {α : Type} (decode : Json → Option α) (members : List (String × Json))
    (field : String) : Option (Option α) :=
  match members.lookup field with
  | none => some none
  | some .null => some none
  | some value => (decode value).map some

/-- A field that takes a default when it is missing. -/
def defaulted {α : Type} (default : α) (decode : Json → Option α) (members : List (String × Json))
    (field : String) : Option α :=
  match members.lookup field with
  | none => some default
  | some value => decode value

/-- A value that may be null. -/
def orNull {α : Type} (decode : Json → Option α) : Json → Option (Option α)
  | .null => some none
  | value => (decode value).map some

/-- A text. -/
def toText? : Json → Option Text
  | .text t => some t
  | _ => none

/-- A truth value. -/
def toBool? : Json → Option Bool
  | .bool b => some b
  | _ => none

/-- A count: an integer from zero up to the bound. -/
def toCount? : Json → Option Nat
  | .integer (.ofNat n) => if n < countBound then some n else none
  | _ => none

/-- A list whose items all decode. -/
def toList? {α : Type} (decode : Json → Option α) : Json → Option (List α)
  | .array items => items.mapM decode
  | _ => none

end ApexOutline.Json
