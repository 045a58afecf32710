import ApexOutline.Declaration
import ApexOutline.Outline.State
/-!
# Outlines

The outline of a source text lists its documentable declarations. The lines are read one after the
other; each line has exactly one outcome, and the outline is what the outcomes say.
-/

namespace ApexOutline

open Text

/-- What becomes of a line. -/
inductive Outline.Outcome where
  /-- The line opens, continues or closes a block comment. -/
  | comment
  /-- The line is blank or a line comment. -/
  | blank
  /-- The line holds annotations only, which belong to the next declaration. -/
  | annotations
  /-- The line is code that is not documented. -/
  | skipped
  /-- The line is a declaration. -/
  | declared (declaration : Declaration)
  deriving DecidableEq, Repr

/-- The declarations of a source text in order, and the number of code lines without one. -/
structure Outline where
  declarations : List Declaration
  skippedLines : Nat
  deriving DecidableEq, Repr

namespace Outline

/-- The declaration on a kept line, which takes the doc text that waits. -/
def State.declare (s : State) (scopes : ScopeList) (number : Nat) (line : Text) : Declaration :=
  let doc := DocComment.ofLines? s.pendingDoc
  let found := Declaration.kindAndName line (s.context.map (lower ·.simpleName))
  { kind := found.1
    name := found.2
    scope := Scope.ofLine? line scopes
    lineNumber := number
    signature := line
    parent := s.context.map (·.name)
    docComment := doc
    links := (doc.map DocComment.links).getD [] }

/-- Whether the body of a type stays open after its header line: more braces open than close, or
there is none yet. -/
def leavesBodyOpen (line : Text) : Bool :=
  line.count '}' < line.count '{' || !line.contains '{'

/-- The dotted name of a type inside the type `parent`. -/
def qualifiedName (parent : Option Text) (name : Text) : Text :=
  match parent with
  | some p => p ++ '.' :: name
  | none => name

/-- The types that are open after the header of `declaration`. -/
def State.openTypesAfter (s : State) (declaration : Declaration) (line : Text) : List OpenType :=
  match declaration.kind, declaration.name with
  | .type keyword, some name =>
    if leavesBodyOpen line then
      ⟨⟨qualifiedName declaration.parent name, keyword = .interfaceWord⟩, s.depth + 1, false⟩ ::
        s.openTypes
    else s.openTypes
  | _, _ => s.openTypes

/-- Reads a line of code at member level, outside comments. -/
def State.readMember (s : State) (scopes : ScopeList) (number : Nat) (line : Text) :
    State × Outcome :=
  if (trim (Annotations.strip line)).isEmpty then (s, .annotations)
  else if Line.isKept line scopes s.context then
    let declaration := s.declare scopes number line
    let after := { s with pendingDoc := [], openTypes := s.openTypesAfter declaration line }
    (after.applyBraces line, .declared declaration)
  else (({ s with pendingDoc := [] } : State).applyBraces line, .skipped)

/-- Reads a line whose outer blanks are dropped. -/
def State.readLine (s : State) (scopes : ScopeList) (number : Nat) (line : Text) :
    State × Outcome :=
  if s.comment ≠ .outside then (s.continueComment line, .comment)
  else if line.isEmpty || "//".toList.isPrefixOf line then (s, .blank)
  else if "/*".toList.isPrefixOf line then (s.openComment line, .comment)
  else if s.atMemberLevel then s.readMember scopes number line
  else (s.applyBraces line, .skipped)

/-- Reads a line as it stands in the source. -/
def State.step (s : State) (scopes : ScopeList) (number : Nat) (line : Text) : State × Outcome :=
  s.readLine scopes number (trim line)

/-- The state after some lines, the first of which has the given number. -/
def State.after (scopes : ScopeList) (s : State) (number : Nat) : List Text → State
  | [] => s
  | line :: rest => State.after scopes (s.step scopes number line).1 (number + 1) rest

/-- The outcomes of some lines, the first of which has the given number. -/
def outcomes (scopes : ScopeList) (s : State) (number : Nat) : List Text → List Outcome
  | [] => []
  | line :: rest =>
    let next := s.step scopes number line
    next.2 :: outcomes scopes next.1 (number + 1) rest

/-- The declaration on a line, when there is one. -/
def Outcome.declaration? : Outcome → Option Declaration
  | .declared declaration => some declaration
  | _ => none

/-- What the outcomes of the lines amount to. -/
def ofOutcomes (outcomes : List Outcome) : Outline :=
  ⟨outcomes.filterMap Outcome.declaration?, outcomes.count .skipped⟩

/-- The outline of a source text. -/
def ofSource (scopes : ScopeList) (source : Text) : Outline :=
  ofOutcomes (outcomes scopes {} 1 (lines source))

end Outline

end ApexOutline
