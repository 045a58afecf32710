import ApexOutline.Digest
/-!
# JSON values

Reports are written and records are read as JSON values. Numbers are integers wherever this library
writes or accepts one; any other number is kept apart as a decimal.
-/

namespace ApexOutline

open Text

/-- A JSON value. An object keeps its members in order. -/
inductive Json where
  | null
  | bool (value : Bool)
  | integer (value : Int)
  /-- The number `mantissa * 10 ^ (-places)`, written with a fraction. -/
  | decimal (mantissa : Int) (places : Nat)
  | text (value : Text)
  | array (items : List Json)
  | object (members : List (String × Json))
  deriving Repr, Inhabited

namespace Json

/-- A count as a value. -/
def ofNat (n : Nat) : Json :=
  .integer n

/-- A list of texts as a value. -/
def ofTexts (texts : List Text) : Json :=
  .array (texts.map .text)

/-- A value that may be missing, which is then written as null. -/
def ofOption (value : Option Text) : Json :=
  match value with
  | some t => .text t
  | none => .null

/-! ## Printing -/

/-- A character inside quotes. -/
def escapeChar (c : Char) : Text :=
  match c with
  | '"' => ['\\', '"']
  | '\\' => ['\\', '\\']
  | '\n' => ['\\', 'n']
  | '\r' => ['\\', 'r']
  | '\t' => ['\\', 't']
  | '\x08' => ['\\', 'b']
  | '\x0c' => ['\\', 'f']
  | _ =>
    if c.toNat < 0x20 then
      ['\\', 'u', '0', '0', Digest.hexDigit (c.toNat / 16), Digest.hexDigit (c.toNat % 16)]
    else [c]

/-- A text in quotes. -/
def quote (t : Text) : Text :=
  '"' :: t.flatMap escapeChar ++ ['"']

/-- The digits of an integer. -/
def integerText (n : Int) : Text :=
  (if n < 0 then ['-'] else []) ++ Nat.toDigits 10 n.natAbs

/-- A decimal with all its places. -/
def decimalText (mantissa : Int) (places : Nat) : Text :=
  let digits := Nat.toDigits 10 mantissa.natAbs
  let padded := List.replicate (places + 1 - digits.length) '0' ++ digits
  let sign := if mantissa < 0 then ['-'] else []
  sign ++ padded.take (padded.length - places) ++ '.' :: padded.drop (padded.length - places)

/-- A new line with two spaces for every level. -/
def newLine (level : Nat) : Text :=
  '\n' :: List.replicate (2 * level) ' '

mutual

/-- A value on several lines, as it stands at the given level of nesting. -/
def renderAt (level : Nat) : Json → Text
  | .null => "null".toList
  | .bool b => if b then "true".toList else "false".toList
  | .integer n => integerText n
  | .decimal m p => decimalText m p
  | .text t => quote t
  | .array [] => ['[', ']']
  | .array (item :: rest) =>
    '[' :: newLine (level + 1) ++ renderAt (level + 1) item ++ renderItems (level + 1) rest ++
      newLine level ++ [']']
  | .object [] => ['{', '}']
  | .object ((key, value) :: rest) =>
    '{' :: newLine (level + 1) ++ quote key.toList ++ [':', ' '] ++ renderAt (level + 1) value ++
      renderMembers (level + 1) rest ++ newLine level ++ ['}']

/-- The items of an array after the first. -/
def renderItems (level : Nat) : List Json → Text
  | [] => []
  | item :: rest => ',' :: newLine level ++ renderAt level item ++ renderItems level rest

/-- The members of an object after the first. -/
def renderMembers (level : Nat) : List (String × Json) → Text
  | [] => []
  | (key, value) :: rest =>
    ',' :: newLine level ++ quote key.toList ++ [':', ' '] ++ renderAt level value ++
      renderMembers level rest

end

/-- A value on several lines, two spaces for every level of nesting. -/
def render (value : Json) : Text :=
  renderAt 0 value

end Json

end ApexOutline
