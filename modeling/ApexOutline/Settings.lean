import ApexOutline.Scope
/-!
# Settings of a run

What a configuration file may say. Every setting has a default.
-/

namespace ApexOutline

/-- The settings of a run. -/
structure Settings where
  /-- The scopes to document, in order of precedence. -/
  scopes : ScopeList := ScopeList.standard
  /-- The extensions of the files to collect. -/
  extensions : List Text := ["cls".toList, "trigger".toList]
  /-- At most so many files are read. -/
  maxFiles : Option Nat := none
  /-- How many threads may work; the result does not depend on it. -/
  threads : Option Nat := none
  /-- Whether a warning about a file says why it could not be read. -/
  verbose : Bool := false
  deriving DecidableEq, Repr

end ApexOutline
