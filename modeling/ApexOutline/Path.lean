import ApexOutline.Text.Basic
/-!
# Paths

A path keeps the spelling its user gave it, but two spellings with the same components are the same
path to everything that sorts or compares. Repeated slashes and inner dots are not components; a
leading dot is one.
-/

namespace ApexOutline

open Text

/-- A path as it is spelled, with slashes between its parts. -/
abbrev Path := Text

/-- A part of a path. -/
inductive Path.Component where
  /-- The slash that opens an absolute path. -/
  | root
  /-- The dot that opens a relative path. -/
  | current
  /-- Two dots. -/
  | parent
  | name (name : Text)
  deriving DecidableEq, Repr

namespace Path

/-- What stands between the slashes, empty parts left out. -/
def parts (p : Path) : List Text :=
  (p.splitOnP (· == '/')).filter (!·.isEmpty)

theorem ne_nil_of_mem_parts {p : Path} {part : Text} (h : part ∈ p.parts) : part ≠ [] := by
  simpa using (List.mem_filter.1 h).2

theorem slash_not_mem_of_mem_parts {p : Path} {part : Text} (h : part ∈ p.parts) : '/' ∉ part :=
  fun hslash => by simpa using of_mem_splitOnP (List.mem_filter.1 h).1 '/' hslash

/-- Whether a path starts at the root. -/
def isAbsolute (p : Path) : Bool :=
  p.head? == some '/'

/-- Whether a path ends in a slash. -/
def endsInSlash (p : Path) : Bool :=
  p.getLast? == some '/'

/-- The component that a part inside a path is; a dot is none. -/
def Component.ofPart? (part : Text) : Option Component :=
  if part = ['.'] then none
  else if part = ['.', '.'] then some .parent
  else some (.name part)

/-- The components of a path. -/
def components (p : Path) : List Component :=
  let inner := p.parts.filterMap Component.ofPart?
  if p.isAbsolute then .root :: inner
  else if p.parts.head? = some ['.'] then .current :: inner
  else inner

/-- Components are ordered by kind, and names by their characters. -/
def Component.key : Component → List Nat
  | .root => [0]
  | .current => [1]
  | .parent => [2]
  | .name n => 3 :: n.map Char.toNat

/-- The order of paths is the lexicographic order of this key. Two paths with the same key have the
same components. -/
def key (p : Path) : List (List Nat) :=
  p.components.map Component.key

/-- The lexicographic order of lists whose items are ordered by `le`. -/
def lexLe {α : Type} (le : α → α → Bool) : List α → List α → Bool
  | [], _ => true
  | _ :: _, [] => false
  | a :: r, b :: s => le a b && (!le b a || lexLe le r s)

/-- Whether one path comes before another or is the same. -/
def le (p q : Path) : Bool :=
  lexLe (lexLe Nat.ble) p.key q.key

/-- Sorts paths; of two spellings of one path the earlier stays first. -/
def sort (paths : List Path) : List Path :=
  paths.mergeSort le

/-- Keeps the first of neighbours that are the same path. -/
def dedup : List Path → List Path
  | [] => []
  | [p] => [p]
  | p :: q :: rest =>
    if p.key = q.key then dedup (p :: rest) else p :: dedup (q :: rest)

/-- The last component, when it is a name. -/
def fileName? (p : Path) : Option Text :=
  match p.components.getLast? with
  | some (.name n) => some n
  | _ => none

/-- The part of a file name after its last dot. A name whose only dot opens it has none. -/
def extension? (p : Path) : Option Text :=
  p.fileName?.bind fun name =>
    let reversed := name.reverse
    match reversed.dropWhile (· != '.') with
    | _ :: _ :: _ => some (reversed.takeWhile (· != '.')).reverse
    | _ => none

/-- Whether the extension of a path is one of `extensions`, which may be written with leading dots
and in any ASCII case. -/
def hasExtension (p : Path) (extensions : List Text) : Bool :=
  p.extension?.any fun found =>
    extensions.any fun wanted => eqIgnoringAsciiCase found (wanted.dropWhile (· == '.'))

/-- A text that can name an entry of a directory: dots alone, which lead elsewhere, cannot. -/
structure IsName (name : Text) : Prop where
  ne_nil : name ≠ []
  slash_not_mem : '/' ∉ name
  ne_current : name ≠ ['.']
  ne_parent : name ≠ ['.', '.']

instance (name : Text) : Decidable (IsName name) :=
  decidable_of_iff (name ≠ [] ∧ '/' ∉ name ∧ name ≠ ['.'] ∧ name ≠ ['.', '.'])
    ⟨fun ⟨hempty, hslash, hcurrent, hparent⟩ => ⟨hempty, hslash, hcurrent, hparent⟩,
      fun h => ⟨h.ne_nil, h.slash_not_mem, h.ne_current, h.ne_parent⟩⟩

/-- The path of `name` inside the directory `p`. -/
def join (p : Path) (name : Text) : Path :=
  if p.isEmpty || p.endsInSlash then p ++ name else p ++ '/' :: name

/-- Drops what a reversed path starts with that is no component: slashes and inner dots. -/
def dropTrailing : Text → Text
  | '/' :: [] => ['/']
  | '/' :: c :: r => dropTrailing (c :: r)
  | '.' :: '/' :: r => dropTrailing ('/' :: r)
  | t => t

/-- A path without its last component, in the same spelling; the root and the empty path have no
parent. -/
def parent? (p : Path) : Option Path :=
  match dropTrailing p.reverse with
  | [] => none
  | ['/'] => none
  | t => some (dropTrailing (t.dropWhile (· != '/'))).reverse

/-- The first `n` of a path, its parent, and so on up to the empty path, which is left out. -/
def ancestorsUpTo : Nat → Path → List Path
  | 0, _ => []
  | n + 1, p =>
    if p.isEmpty then []
    else p :: match p.parent? with
      | some q => ancestorsUpTo n q
      | none => []

/-- A path, its parent, and so on. Each is shorter than the one before. -/
def ancestors (p : Path) : List Path :=
  ancestorsUpTo p.length p

end Path

end ApexOutline
