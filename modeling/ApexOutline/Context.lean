import ApexOutline.Scope
import ApexOutline.TypeHeader
/-!
# Lines worth keeping

Whether a line carries a declaration to document depends on the scopes and on the type it stands in:
inside a type, its constructors need no access modifier, and inside an interface every method
signature counts.
-/

namespace ApexOutline

open Text

/-- A type that is open while lines are read. -/
structure Context where
  /-- The name of the type, dotted when it is nested. -/
  name : Text
  isInterface : Bool
  deriving DecidableEq, Repr

/-- The name after the last dot. -/
def Context.simpleName (context : Context) : Text :=
  (context.name.splitOnP (· == '.')).getLastD []

namespace Line

/-- Whether a normalized line starts with the bare keyword of a type and a space. -/
def opensBareType (normal : Text) : Bool :=
  ["enum ".toList, "class ".toList, "interface ".toList].any (·.isPrefixOf normal)

/-- Whether a normalized line starts with a type's simple name and, after blanks, a parenthesis. -/
def opensConstructor (simpleName normal : Text) : Bool :=
  !simpleName.isEmpty &&
    match after? (lower simpleName) normal with
    | some rest => ['('].isPrefixOf (trimStart rest)
    | none => false

/-- Whether a normalized line is kept because of the type it stands in. -/
def isKeptIn (context : Context) (normal : Text) : Bool :=
  opensConstructor context.simpleName normal || (context.isInterface && normal.contains '(')

/-- Whether a line carries a declaration: it has a scope, it is a type header, or the enclosing type
makes it one. -/
def isKept (line : Text) (scopes : ScopeList) (context : Option Context) : Bool :=
  (Scope.ofLine? line scopes).isSome ||
    opensBareType (Scope.normalize line) ||
    (TypeHeader.ofLine? line).isSome ||
    context.any (isKeptIn · (Scope.normalize line))

end Line

end ApexOutline
