import ApexOutline.Toml.Scalar
/-!
# TOML documents

A document is read line by line into statements, which then make its tables.
-/

namespace ApexOutline.Toml

open Text

/-- Values nest less deep than this, and dotted keys have fewer parts. -/
def depthLimit : Nat := 80

/-! ## Keys -/

/-- Characters of a key without quotes. -/
def isBareKey (c : Char) : Bool :=
  c.isAlphanum || c == '_' || c == '-'

/-- One part of a key: bare, or a string on one line. -/
def keyPart : Reader Text
  | '"' :: r => basicRest r
  | '\'' :: r => literalRest r
  | t =>
    match t.span isBareKey with
    | ([], _) => none
    | part => some part

/-- The parts of a dotted key, spaces around each of them dropped. -/
def keyParts (t : Text) : Option (List Text × Text) :=
  match keyPart (t.dropWhile isSpace) with
  | none => none
  | some (part, rest) =>
    match rest.dropWhile isSpace with
    | '.' :: r =>
      if r.length < t.length then (keyParts r).map fun x => (part :: x.1, x.2) else none
    | r => some ([part], r)
  termination_by t.length

/-- A key: the path to a table and the last part. -/
def key : Reader (List Text × Text) := fun t => do
  let (parts, rest) ← keyParts t
  if depthLimit ≤ parts.length then none
  return ((parts.dropLast, ← parts.getLast?), rest)

/-! ## Values -/

/-- Drops spaces, line breaks and comments that end in a line break. -/
def skipLayout (t : Text) : Text :=
  match t with
  | [] => []
  | c :: r =>
    if isSpace c then skipLayout r
    else
      match afterNewline? (if c = '#' then r.dropWhile isPrintable else t) with
      | some rest => if rest.length ≤ r.length then skipLayout rest else t
      | none => t
  termination_by t.length

/-- The items of an array up to its closing bracket. A comma may follow the last one. -/
def arrayRest (item : Reader Node) (t : Text) : Option (List Node × Text) :=
  match skipLayout t with
  | ']' :: r => some ([], r)
  | start =>
    match item start with
    | none => none
    | some (node, rest) =>
      match skipLayout rest with
      | ']' :: r => some ([node], r)
      | ',' :: r =>
        if r.length < t.length then (arrayRest item r).map fun x => (node :: x.1, x.2) else none
      | _ => none
  termination_by t.length

/-- A key, an equals sign and a value. -/
def assignment (value : Reader Node) : Reader Statement := fun t => do
  let ((path, name), rest) ← key t
  let (_, rest) ← exactly '=' rest
  let (node, rest) ← value (rest.dropWhile isSpace)
  return (.assign path name node, rest)

/-- The assignments of an inline table after its first, up to its closing brace. -/
def inlineRest (value : Reader Node) (t : Text) : Option (List Statement × Text) :=
  match assignment value t with
  | none => none
  | some (statement, rest) =>
    match rest.dropWhile isSpace with
    | '}' :: r => some ([statement], r)
    | ',' :: r =>
      if r.length < t.length then (inlineRest value r).map fun x => (statement :: x.1, x.2)
      else none
    | _ => none
  termination_by t.length

/-- An inline table after its opening brace. -/
def inlineTable (value : Reader Node) : Reader Node := fun t => do
  let (statements, rest) ←
    match t.dropWhile isSpace with
    | '}' :: r => some ([], r)
    | start => inlineRest value start
  return (.table .inline (← Document.ofStatements? statements), rest)

/-- A value that nests at most so deep. -/
def value : Nat → Reader Node
  | 0, t =>
    match t with
    | '[' :: _ => none
    | '{' :: _ => none
    | _ => scalar t
  | depth + 1, t =>
    match t with
    | '[' :: r => (arrayRest (value depth) r).map fun x => (.array x.1, x.2)
    | '{' :: r => inlineTable (value depth) r
    | _ => scalar t

/-! ## Lines -/

/-- What follows the end of a line, where a comment may stand before it. -/
def afterLine? (t : Text) : Option Text :=
  let rest :=
    match t.dropWhile isSpace with
    | '#' :: r => r.dropWhile isPrintable
    | r => r
  if rest.isEmpty then some [] else afterNewline? rest

/-- A statement, which a text starts with. -/
def statement : Reader Statement := fun t =>
  match t with
  | '[' :: '[' :: r => do
    let ((path, name), rest) ← key r
    return (.tables path name, ← after? [']', ']'] rest)
  | '[' :: r => do
    let ((path, name), rest) ← key r
    return (.table path name, ← after? [']'] rest)
  | _ => assignment (value (depthLimit - 1)) t

/-- The statements of a text. Each ends its line. -/
def statements (t : Text) : Option (List Statement) :=
  match t.dropWhile isSpace with
  | [] => some []
  | start =>
    match afterLine? start with
    | some rest => if rest.length < t.length then statements rest else none
    | none =>
      match statement start with
      | none => none
      | some (s, rest) =>
        match afterLine? rest with
        | none => none
        | some rest =>
          if rest.length < t.length then (statements rest).map (s :: ·) else none
  termination_by t.length

/-- The members of a document, which may open with a byte order mark. -/
def parse? (source : Text) : Option Members := do
  let lines ← statements ((after? ['\ufeff'] source).getD source)
  Document.ofStatements? lines

end ApexOutline.Toml
