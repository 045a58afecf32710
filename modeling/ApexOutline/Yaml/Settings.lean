import ApexOutline.Settings
import ApexOutline.Yaml.Document
/-!
# Settings in YAML

The settings are members of the mapping at the top. A scalar is read as the type that a setting
expects, a setting that is missing takes its default, and other members are ignored.
-/

namespace ApexOutline

namespace Yaml

open Text

/-- Nodes by the number of their anchor; of two with one number, the later in the text counts. -/
abbrev Anchored := List (Nat × Node)

/-- The node that a node stands for: an alias stands for the anchored one. -/
def Node.target? (anchored : Anchored) : Node → Option Node
  | .alias ref => anchored.reverse.lookup ref
  | node => some node

/-! ## Scalars by expected type -/

/-- A tag of the standard. -/
def standardTag (name : String) : Text :=
  "tag:yaml.org,2002:".toList ++ name.toList

/-- Whether a scalar can be read as a value of the named type: it is plain, or a literal block with
the tag of the type. -/
def readsAs (type : String) (tag : Option Text) (style : Style) : Bool :=
  style == .plain || (style == .literal && tag == some (standardTag type))

/-- Whether a text is a word for nothing. -/
def isNullWord (t : Text) : Bool :=
  ["null", "Null", "NULL", "~"].any (·.toList == t)

/-- The truth value that a word names. -/
def boolWord? (t : Text) : Option Bool :=
  if ["true", "True", "TRUE"].any (·.toList == t) then some true
  else if ["false", "False", "FALSE"].any (·.toList == t) then some false
  else none

/-- The count that a word writes: digits after an optional plus, decimal ones without leading
zeros. -/
def countWord? (t : Text) : Option Nat :=
  match (after? ['+'] t).getD t with
  | '0' :: 'x' :: r => countIn? 16 r
  | '0' :: 'o' :: r => countIn? 8 r
  | '0' :: 'b' :: r => countIn? 2 r
  | '0' :: _ :: _ => none
  | word => countIn? 10 word

/-- The text of a scalar of any kind. -/
def Node.toText? : Node → Option Text
  | .scalar _ _ _ text => some text
  | _ => none

/-- A truth value. -/
def Node.toBool? : Node → Option Bool
  | .scalar _ tag style text => if readsAs "bool" tag style then boolWord? text else none
  | _ => none

/-- A count. -/
def Node.toCount? : Node → Option Nat
  | .scalar _ tag style text => if readsAs "int" tag style then countWord? text else none
  | _ => none

/-- Whether a node leaves an optional setting out. A plain scalar with the tag for nothing has to be
a word for it. -/
def Node.isAbsent? : Node → Option Bool
  | .scalar _ (some tag) .plain text =>
    if tag != standardTag "null" then some false
    else if isNullWord text then some true
    else none
  | .scalar _ none .plain text => some (text.isEmpty || isNullWord text)
  | _ => some false

/-- A count or nothing. -/
def Node.toOptionalCount? (node : Node) : Option (Option Nat) := do
  if ← node.isAbsent? then return none
  return some (← node.toCount?)

/-- Whether nothing is written for a node. -/
def Node.isEmpty : Node → Bool
  | .scalar _ _ .plain [] => true
  | _ => false

/-- A list of texts, which has no elements where nothing is written. -/
def Node.toTexts? (anchored : Anchored) : Node → Option (List Text)
  | .sequence _ items => items.mapM fun item => (item.target? anchored).bind toText?
  | node => if node.isEmpty then some [] else none

/-! ## Members -/

/-- Members of a mapping by the text of their key. -/
abbrev Members := List (Text × Node)

/-- The members of a mapping, whose keys are scalars. Where nothing is written there are none. -/
def Node.toMembers? (anchored : Anchored) : Node → Option Members
  | .mapping _ pairs => pairs.mapM fun (key, value) => do
    return (← (← key.target? anchored).toText?, value)
  | node => if node.isEmpty then some [] else none

/-- A member, or a default when there is none. It must not be given twice. -/
def Members.get? {α : Type} (members : Members) (anchored : Anchored) (key : String) (default : α)
    (decode : Node → Option α) : Option α :=
  match members.filter (·.1 == key.toList) with
  | [] => some default
  | [(_, node)] => (node.target? anchored).bind decode
  | _ => none

end Yaml

open Yaml in
/-- The settings that the node at the top gives. -/
def Settings.ofYamlNode? (root : Node) : Option Settings := do
  let standard : Settings := {}
  let anchored := root.anchors
  let members ← root.toMembers? anchored
  let scopes ← members.get? anchored "scopes" standard.scopes
    fun n => (n.toTexts? anchored).map ScopeList.mk
  let extensions ← members.get? anchored "extensions" standard.extensions (Node.toTexts? anchored)
  let maxFiles ← members.get? anchored "max_files" standard.maxFiles Node.toOptionalCount?
  let threads ← members.get? anchored "parallel_threads" standard.threads Node.toOptionalCount?
  let verbose ← members.get? anchored "verbose" standard.verbose Node.toBool?
  return { scopes, extensions, maxFiles, threads, verbose }

/-- The settings that a YAML text gives. -/
def Settings.ofYaml? (source : Text) : Option Settings :=
  match Yaml.Node.parse? source with
  | none => none
  | some none => some {}
  | some (some root) => Settings.ofYamlNode? root

end ApexOutline
