import ApexOutline.Annotations
import ApexOutline.Keyword
import ApexOutline.Text.Lowercase
/-!
# Scopes

The caller lists the access scopes to document, in order of precedence. A line has the first listed
scope whose keyword opens it. When none does and `private` is listed, a member written without an
access modifier is taken as private by its shape.
-/

namespace ApexOutline

open Text

/-- Scope keywords in order of precedence. -/
structure ScopeList where
  keywords : List Text
  deriving DecidableEq, Repr

namespace ScopeList

/-- A list of keywords as a user types them: blanks around a keyword and blank entries are dropped. -/
def ofKeywords (keywords : List Text) : ScopeList :=
  ⟨(keywords.map trim).filter (!·.isEmpty)⟩

/-- The scopes that are documented unless others are named. -/
def standard : ScopeList :=
  ⟨["global".toList, "public".toList, "webservice".toList]⟩

instance : Inhabited ScopeList := ⟨standard⟩

/-- The first listed keyword equal to `scope` up to ASCII case, as it is spelled in the list. -/
def find? (scopes : ScopeList) (scope : Text) : Option Text :=
  scopes.keywords.find? (eqIgnoringAsciiCase · scope)

/-- Whether a scope is listed, up to ASCII case. -/
def contains (scopes : ScopeList) (scope : Text) : Bool :=
  (scopes.find? scope).isSome

/-- Whether no scope is listed. -/
def isEmpty (scopes : ScopeList) : Bool :=
  scopes.keywords.isEmpty

end ScopeList

namespace Scope

/-- The keyword of members that are private by their shape. -/
def privateWord : Text := "private".toList

/-- The keyword of test methods, which `static` may precede. -/
def testWord : Text := "testmethod".toList

/-- A line as scopes are read off it: annotations and outer blanks dropped, in lowercase. -/
def normalize (line : Text) : Text :=
  lower (trim (Annotations.strip line))

/-- Whether a line starts with the words `static testmethod`, each with a blank after it. -/
def opensStaticTest (line : Text) : Bool :=
  Keyword.opens "static".toList line && Keyword.opens testWord (trimStart (line.drop 6))

/-- Whether a keyword names the scope of a normalized line. -/
def isExplicit (line keyword : Text) : Bool :=
  Keyword.opens (lower keyword) line || (lower keyword == testWord && opensStaticTest line)

/-- Whether a normalized line has the shape of a member without an access modifier. -/
def isImplicitlyPrivate (line : Text) : Bool :=
  (Keyword.opens "static".toList line && !hasWord testWord line) ||
    ((Keyword.opensMember line || Keyword.opensCollection line) && line.contains '(')

/-- The scope of a line in the spelling of the list. -/
def ofLine? (line : Text) (scopes : ScopeList) : Option Text :=
  let normal := normalize line
  match scopes.keywords.find? (isExplicit normal) with
  | some keyword => some keyword
  | none => if isImplicitlyPrivate normal then scopes.find? privateWord else none

end Scope

end ApexOutline
