import ApexOutline.Text.Basic
/-!
# TOML tables

A TOML document is a tree of tables. How a table came about decides what may still be added to it: a
table is opened by a header at most once, dotted keys only extend tables that dotted keys made, and
an inline table is complete where it is written.
-/

namespace ApexOutline.Toml

open Text

/-- How a table came about. -/
inductive Origin where
  /-- Its own header, or the top of the document. -/
  | header
  /-- The header of a table inside it. -/
  | implied
  /-- Dotted keys. -/
  | dotted
  /-- Braces. -/
  | inline
  deriving DecidableEq, Repr

/-- A value of a document. -/
inductive Node where
  | text (value : Text)
  | integer (value : Int)
  | boolean (value : Bool)
  /-- A floating-point number or a date, which no setting takes. -/
  | other
  | array (items : List Node)
  /-- The tables under a repeated header, each with its members. -/
  | tables (items : List (List (Text × Node)))
  | table (origin : Origin) (members : List (Text × Node))
  deriving Repr, Inhabited

/-- The members of a table, each key once. -/
abbrev Members := List (Text × Node)

namespace Members

/-- Puts another value in the place of a member. -/
def replace (members : Members) (key : Text) (node : Node) : Members :=
  members.map fun m => if m.1 = key then (key, node) else m

/-- Adds a member whose key is new. -/
def add? (members : Members) (key : Text) (node : Node) : Option Members :=
  if (members.lookup key).isSome then none else some (members ++ [(key, node)])

/-- Adds a member below a path of dotted keys. The table it goes to is one that dotted keys make. -/
def assign? (members : Members) (key : Text) (node : Node) : List Text → Option Members
  | [] => members.add? key node
  | step :: path =>
    match members.lookup step with
    | none => do
      let inner ← assign? [] key node path
      return members ++ [(step, .table .dotted inner)]
    | some (.table .dotted inner) => do
      let inner ← assign? inner key node path
      return members.replace step (.table .dotted inner)
    | some (.table .implied inner) => do
      if path.isEmpty then none
      let inner ← assign? inner key node path
      return members.replace step (.table .implied inner)
    | some (.tables items) => do
      if path.isEmpty then none
      let last ← items.getLast?
      let inner ← assign? last key node path
      return members.replace step (.tables (items.dropLast ++ [inner]))
    | some _ => none

/-- Changes the table that a header names. Tables on the way are made when they are missing; under a
repeated header the last table is meant. -/
def within? (members : Members) (change : Members → Option Members) : List Text → Option Members
  | [] => change members
  | step :: path =>
    match members.lookup step with
    | none => do
      let inner ← within? [] change path
      return members ++ [(step, .table .implied inner)]
    | some (.table origin inner) => do
      if origin = .inline then none
      let inner ← within? inner change path
      return members.replace step (.table origin inner)
    | some (.tables items) => do
      let last ← items.getLast?
      let inner ← within? last change path
      return members.replace step (.tables (items.dropLast ++ [inner]))
    | some _ => none

/-- Opens a table by its header. -/
def openTable? (key : Text) (members : Members) : Option Members :=
  match members.lookup key with
  | none => some (members ++ [(key, .table .header [])])
  | some (.table .implied inner) => some (members.replace key (.table .header inner))
  | some _ => none

/-- Adds a table under a repeated header. -/
def appendTable? (key : Text) (members : Members) : Option Members :=
  match members.lookup key with
  | none => some (members ++ [(key, .tables [[]])])
  | some (.tables items) => some (members.replace key (.tables (items ++ [[]])))
  | some _ => none

end Members

/-- A line of a document that says something. Keys are paths, the last part given by itself. -/
inductive Statement where
  | assign (path : List Text) (key : Text) (value : Node)
  | table (path : List Text) (key : Text)
  | tables (path : List Text) (key : Text)
  deriving Repr

/-- A document as far as it is read. -/
structure Document where
  members : Members := []
  /-- The table that the last header opened. -/
  current : List Text := []
  deriving Repr

/-- Adds a statement to a document. -/
def Document.add? (document : Document) : Statement → Option Document
  | .assign path key value => do
    let members ← document.members.within? (·.assign? key value path) document.current
    return { document with members }
  | .table path key => do
    let members ← document.members.within? (Members.openTable? key) path
    return { members, current := path ++ [key] }
  | .tables path key => do
    let members ← document.members.within? (Members.appendTable? key) path
    return { members, current := path ++ [key] }

/-- The members of the document that some statements make. -/
def Document.ofStatements? (statements : List Statement) : Option Members := do
  let document ← statements.foldlM Document.add? {}
  return document.members

end ApexOutline.Toml
