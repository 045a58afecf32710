import ApexOutline.Context
import ApexOutline.DocComment
/-!
# The state of an outline

What is known between two lines of a source: the brace depth, the types that are open, whether a
block comment is open, and the lines of the last doc comment while they wait for a declaration.
-/

namespace ApexOutline.Outline

open Text

/-- A type whose header has been read. -/
structure OpenType where
  context : Context
  /-- The brace depth of the members. -/
  bodyDepth : Nat
  /-- Whether the brace that opens the body has been read. -/
  opened : Bool
  deriving DecidableEq, Repr

/-- Whether a line starts inside a block comment, and which kind of comment it is. -/
inductive Comment where
  | outside
  | plain
  | doc
  deriving DecidableEq, Repr

/-- What is known between two lines. -/
structure State where
  depth : Nat := 0
  /-- The open types, innermost first. -/
  openTypes : List OpenType := []
  comment : Comment := .outside
  /-- The lines of the last doc comment that no declaration has taken. -/
  pendingDoc : List Text := []
  deriving DecidableEq, Repr

namespace State

/-- The innermost open type. -/
def context (s : State) : Option Context :=
  s.openTypes.head?.map (·.context)

/-- Whether the next line stands directly in the body of a type or at top level. A brace opened
outside any type, as by a trigger, is not top level. -/
def atMemberLevel (s : State) : Bool :=
  match s.openTypes with
  | t :: _ => s.depth ≤ t.bodyDepth
  | [] => s.depth == 0

/-- The types that stay open at `depth`. The innermost one is marked as opened when the depth reaches
its body; it is closed when it was opened before and the depth is below its body. -/
def stillOpen (depth : Nat) : List OpenType → List OpenType
  | [] => []
  | t :: rest =>
    if t.bodyDepth ≤ depth then { t with opened := true } :: rest
    else if t.opened then stillOpen depth rest
    else t :: rest

/-- The depth after the braces of a line, opening ones first; it never falls below zero. -/
def depthAfter (depth : Nat) (line : Text) : Nat :=
  depth + line.count '{' - line.count '}'

/-- Counts the braces of a line and closes the types that end. -/
def applyBraces (s : State) (line : Text) : State :=
  let depth := depthAfter s.depth line
  { s with depth, openTypes := stillOpen depth s.openTypes }

/-- Whether a line opens a doc comment. -/
def opensDoc (line : Text) : Bool :=
  "/**".toList.isPrefixOf line && !"/**/".toList.isPrefixOf line

/-- Reads a line that opens a block comment. The doc text that was waiting is dropped. -/
def openComment (s : State) (line : Text) : State :=
  let kind := if opensDoc line then Comment.doc else .plain
  { s with
    comment := if has "*/".toList (line.drop 2) then .outside else kind
    pendingDoc := if opensDoc line then [DocComment.lineText (line.drop 3)] else [] }

/-- Reads a line inside a block comment. -/
def continueComment (s : State) (line : Text) : State :=
  { s with
    comment := if has "*/".toList line then .outside else s.comment
    pendingDoc :=
      if s.comment = .doc then s.pendingDoc ++ [DocComment.lineText line] else s.pendingDoc }

end State

end ApexOutline.Outline
