import ApexOutline.Settings
import ApexOutline.Toml.Document
/-!
# Settings in TOML

The settings are members of the top table. A setting that is missing takes its default, a value of
another type is refused, and other members are ignored.
-/

namespace ApexOutline

namespace Toml

open Text

/-- A text. -/
def Node.toText? : Node → Option Text
  | .text t => some t
  | _ => none

/-- A list of texts. -/
def Node.toTexts? : Node → Option (List Text)
  | .array items => items.mapM Node.toText?
  | _ => none

/-- A count. -/
def Node.toCount? : Node → Option Nat
  | .integer (.ofNat n) => some n
  | _ => none

/-- A truth value. -/
def Node.toBool? : Node → Option Bool
  | .boolean b => some b
  | _ => none

/-- A member, or a default when there is none. -/
def Members.get? {α : Type} (members : Members) (key : String) (default : α)
    (decode : Node → Option α) : Option α :=
  match members.lookup key.toList with
  | none => some default
  | some node => decode node

end Toml

open Toml in
/-- The settings that a TOML document gives. -/
def Settings.ofToml? (source : Text) : Option Settings := do
  let standard : Settings := {}
  let members ← Toml.parse? source
  let scopes ← members.get? "scopes" standard.scopes fun n => n.toTexts?.map ScopeList.mk
  let extensions ← members.get? "extensions" standard.extensions Node.toTexts?
  let maxFiles ← members.get? "max_files" standard.maxFiles fun n => n.toCount?.map some
  let threads ← members.get? "parallel_threads" standard.threads fun n => n.toCount?.map some
  let verbose ← members.get? "verbose" standard.verbose Node.toBool?
  return { scopes, extensions, maxFiles, threads, verbose }

end ApexOutline
