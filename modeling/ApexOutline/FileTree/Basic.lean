import ApexOutline.Path
import ApexOutline.Text.Utf8
/-!
# File trees

The files that a run sees are a value: the files, directories and symbolic links below a root, and
the working directory. Paths are resolved against it one part after the other, an absolute path from
the root and any other from the working directory, and links are followed. Operations that change the
tree keep what they have done so far when they fail.
-/

namespace ApexOutline

open Text

/-- The names on the way from the root to an entry. -/
abbrev Location := List Text

/-- All parts of a location are names. -/
def Location.Named (here : Location) : Prop :=
  ∀ name ∈ here, Path.IsName name

instance (here : Location) : Decidable here.Named :=
  inferInstanceAs (Decidable (∀ name ∈ here, Path.IsName name))

/-- What stands at a location. -/
inductive FileTree.Entry where
  | file (content : Bytes)
  | directory
  /-- A link. Unless its target is absolute, it is relative to the directory the link is in. -/
  | link (target : Path)
  deriving DecidableEq, Repr

/-- A root with everything below it, and the working directory. No location has two entries, and
what stands on the way to the working directory are directories. -/
structure FileTree where
  entries : List (Location × FileTree.Entry)
  distinct : (entries.map (·.1)).Nodup
  named : ∀ e ∈ entries, e.1.Named
  current : Location := []
  reached : ∀ front, front <+: current → front ≠ [] → (front, .directory) ∈ entries := by simp

/-- Why an operation on files fails. -/
inductive FileError where
  | notFound
  | notADirectory
  | isADirectory
  | alreadyExists
  | tooManyLinks
  | nameTooLong
  | nulInPath
  | notUtf8
  deriving DecidableEq, Repr

/-- The wording of a cause, with its number where the system has one. -/
def FileError.message : FileError → String
  | .notFound => "No such file or directory (os error 2)"
  | .notADirectory => "Not a directory (os error 20)"
  | .isADirectory => "Is a directory (os error 21)"
  | .alreadyExists => "File exists (os error 17)"
  | .tooManyLinks => "Too many levels of symbolic links (os error 40)"
  | .nameTooLong => "File name too long (os error 36)"
  | .nulInPath => "file name contained an unexpected NUL byte"
  | .notUtf8 => "stream did not contain valid UTF-8"

namespace FileTree

/-- A root with nothing below it. -/
def empty : FileTree where
  entries := []
  distinct := List.nodup_nil
  named := by simp

instance : Inhabited FileTree := ⟨empty⟩

/-- The entry at a location. The root is a directory. -/
def get? (tree : FileTree) (here : Location) : Option Entry :=
  if here.isEmpty then some .directory else tree.entries.lookup here

theorem mem_entries_of_get? {tree : FileTree} {here : Location} {entry : Entry} (hne : here ≠ [])
    (h : tree.get? here = some entry) : (here, entry) ∈ tree.entries := by
  unfold get? at h
  rw [if_neg (by simpa using hne)] at h
  obtain ⟨front, rest, he, -⟩ := List.lookup_eq_some_iff.1 h
  simp [he]

theorem get?_of_mem_entries {tree : FileTree} {here : Location} {entry : Entry}
    (h : (here, entry) ∈ tree.entries) (hne : here ≠ []) : tree.get? here = some entry := by
  obtain ⟨front, rest, hentries⟩ := List.append_of_mem h
  unfold get?
  rw [if_neg (by simpa using hne), List.lookup_eq_some_iff]
  refine ⟨front, rest, hentries, fun e he => ?_⟩
  have hdistinct := tree.distinct
  rw [hentries, List.map_append, List.nodup_append] at hdistinct
  simpa using (hdistinct.2.2 e.1 (List.mem_map_of_mem he) here (by simp)).symm

/-- An entry can be put at the location: it has a name there and takes the place of no directory. -/
structure IsFree (tree : FileTree) (here : Location) : Prop where
  named : here.Named
  ne_directory : tree.get? here ≠ some .directory

/-- Puts an entry at a location, in place of the one that is there. -/
def set (tree : FileTree) (here : Location) (entry : Entry) (h : tree.IsFree here) : FileTree where
  entries := tree.entries.filter (·.1 != here) ++ [(here, entry)]
  distinct := by
    rw [List.map_append, List.nodup_append]
    refine ⟨tree.distinct.sublist (List.filter_sublist.map _), by simp, ?_⟩
    intro a ha b hb
    obtain ⟨e, he, rfl⟩ := List.mem_map.1 ha
    simp only [List.map_cons, List.map_nil, List.mem_singleton] at hb
    subst hb
    simpa using (List.mem_filter.1 he).2
  named := by
    intro e he
    rcases List.mem_append.1 he with he | he
    · exact tree.named e (List.mem_filter.1 he).1
    · rw [List.mem_singleton.1 he]
      exact h.named
  current := tree.current
  reached := by
    intro front hfront hne
    have hentry := tree.reached front hfront hne
    refine List.mem_append_left _ (List.mem_filter.2 ⟨hentry, ?_⟩)
    rw [bne_iff_ne]
    rintro rfl
    exact h.ne_directory (get?_of_mem_entries hentry hne)

/-- How many links are followed before a path is given up. -/
def linkLimit : Nat := 40

/-- The longest name in bytes. -/
def nameLimit : Nat := 255

/-- The parts of a path as they are followed: a slash at the end asks for a directory, as a dot
would. -/
def steps (p : Path) : List Text :=
  p.parts ++ if p.endsInSlash then [['.']] else []

/-- Where a path starts that is seen from the location `here`. -/
def startOf (here : Location) (p : Path) : Location :=
  if p.isAbsolute then [] else here

/-- Follows parts from the location `here`, through at most `links` links. -/
def follow (tree : FileTree) (links : Nat) (here : Location) (parts : List Text) :
    Except FileError Location :=
  match parts with
  | [] => .ok here
  | part :: rest =>
    if tree.get? here ≠ some .directory then .error .notADirectory
    else if part = ['.'] then tree.follow links here rest
    else if part = ['.', '.'] then tree.follow links here.dropLast rest
    else if nameLimit < (encodeUtf8 part).length then .error .nameTooLong
    else
      match tree.get? (here ++ [part]) with
      | none => .error .notFound
      | some (.link target) =>
        match links with
        | 0 => .error .tooManyLinks
        | n + 1 => tree.follow n (startOf here target) (steps target ++ rest)
      | some _ => tree.follow links (here ++ [part]) rest
  termination_by (links, parts.length)

/-- Refuses paths that name nothing in any tree. -/
def checkPath (p : Path) : Except FileError Unit :=
  if p.contains '\x00' then .error .nulInPath
  else if p.isEmpty then .error .notFound
  else .ok ()

/-- The location of an existing file or directory, links followed. -/
def locate (tree : FileTree) (p : Path) : Except FileError Location := do
  checkPath p
  tree.follow linkLimit (startOf tree.current p) (steps p)

/-- What a path leads to, links followed. -/
def find? (tree : FileTree) (p : Path) : Option Entry :=
  match tree.locate p with
  | .ok here => tree.get? here
  | .error _ => none

/-- Whether a path leads anywhere. -/
def contains (tree : FileTree) (p : Path) : Bool :=
  (tree.find? p).isSome

/-- Whether a path leads to a directory. -/
def isDirectory (tree : FileTree) (p : Path) : Bool :=
  tree.find? p = some .directory

/-- Whether a path leads to a file. -/
def isFile (tree : FileTree) (p : Path) : Bool :=
  match tree.find? p with
  | some (.file _) => true
  | _ => false

/-- The content of a file. -/
def read (tree : FileTree) (p : Path) : Except FileError Bytes := do
  match tree.get? (← tree.locate p) with
  | some (.file content) => return content
  | some _ => .error .isADirectory
  | none => .error .notFound

/-! ## Changing the tree -/

/-- The directory that `parts` lead to from `here`. -/
def followToDirectory (tree : FileTree) (here : Location) (parts : List Text) :
    Except FileError Location := do
  let found ← tree.follow linkLimit here parts
  if tree.get? found = some .directory then return found else .error .notADirectory

/-- Where a file written to a path that is seen from `here` goes. A link in the last place is followed,
also when nothing is at its target yet; at most `links` of them. -/
def writeLocation (tree : FileTree) : Nat → Location → Path → Except FileError Location
  | links, here, p => do
    let some last := p.parts.getLast? | .error .isADirectory
    let directory ← tree.followToDirectory (startOf here p) p.parts.dropLast
    if last = ['.'] || last = ['.', '.'] || p.endsInSlash then .error .isADirectory
    else if nameLimit < (encodeUtf8 last).length then .error .nameTooLong
    else
      match tree.get? (directory ++ [last]) with
      | some .directory => .error .isADirectory
      | some (.link target) =>
        match links with
        | 0 => .error .tooManyLinks
        | n + 1 => tree.writeLocation n directory target
      | _ => return directory ++ [last]

/-- Where a new entry at a path goes: where nothing is yet, in a directory that exists. A link in the
last place is not followed. -/
def createLocation (tree : FileTree) (p : Path) : Except FileError Location := do
  let some last := p.parts.getLast? | .error .alreadyExists
  let directory ← tree.followToDirectory (startOf tree.current p) p.parts.dropLast
  if last = ['.'] || last = ['.', '.'] then .error .alreadyExists
  else if nameLimit < (encodeUtf8 last).length then .error .nameTooLong
  else if (tree.get? (directory ++ [last])).isSome then .error .alreadyExists
  else return directory ++ [last]

/-! Everything that is found has a name, and nothing is made in place of a directory. -/

theorem named_current (tree : FileTree) : tree.current.Named := by
  by_cases hne : tree.current = []
  · simp [hne, Location.Named]
  · exact tree.named _ (tree.reached _ (List.prefix_refl _) hne)

theorem named_startOf {here : Location} (hnamed : here.Named) (p : Path) : (startOf here p).Named := by
  unfold startOf
  split
  · simp [Location.Named]
  · exact hnamed

theorem named_follow {tree : FileTree} {links : Nat} {here found : Location} {parts : List Text}
    (hnamed : here.Named) (h : tree.follow links here parts = .ok found) : found.Named := by
  fun_induction follow tree links here parts
  case case1 =>
    cases h
    exact hnamed
  case case3 ih => exact ih hnamed h
  case case4 ih => exact ih (fun name hname => hnamed name (List.dropLast_subset _ hname)) h
  case case8 ih => exact ih (named_startOf hnamed _) h
  case case9 hentry ih => exact ih (tree.named _ (mem_entries_of_get? (by simp) hentry)) h
  case case2 | case5 | case6 | case7 => cases h

theorem exists_of_bind_eq_ok {α β ε : Type} {x : Except ε α} {f : α → Except ε β} {b : β}
    (h : (x >>= f) = .ok b) : ∃ a, x = .ok a ∧ f a = .ok b := by
  cases x with
  | error e => cases h
  | ok a => exact ⟨a, rfl, h⟩

theorem named_followToDirectory {tree : FileTree} {here found : Location} {parts : List Text}
    (hnamed : here.Named) (h : tree.followToDirectory here parts = .ok found) : found.Named := by
  obtain ⟨directory, hfollow, h⟩ := exists_of_bind_eq_ok h
  split at h
  · cases h
    exact named_follow hnamed hfollow
  · cases h

theorem named_concat {here : Location} {p : Path} {last : Text} (hnamed : here.Named)
    (hlast : p.parts.getLast? = some last) (hcurrent : last ≠ ['.']) (hparent : last ≠ ['.', '.']) :
    Location.Named (here ++ [last]) := by
  intro name hname
  rcases List.mem_append.1 hname with hname | hname
  · exact hnamed name hname
  · have hpart := List.mem_of_getLast? hlast
    rw [List.mem_singleton.1 hname]
    exact ⟨Path.ne_nil_of_mem_parts hpart, Path.slash_not_mem_of_mem_parts hpart, hcurrent, hparent⟩

theorem isFree_writeLocation {tree : FileTree} {links : Nat} {here found : Location} {p : Path}
    (hnamed : here.Named) (h : tree.writeLocation links here p = .ok found) : tree.IsFree found := by
  fun_induction writeLocation tree links here p
  case case2 => cases h
  case case1 links here p last hlast ih =>
    obtain ⟨directory, hdirectory, h⟩ := exists_of_bind_eq_ok h
    have hdir : directory.Named := named_followToDirectory (named_startOf hnamed p) hdirectory
    split at h
    · cases h
    rename_i hdots
    simp only [Bool.or_eq_true, decide_eq_true_eq, not_or] at hdots
    split at h
    · cases h
    split at h
    · cases h
    · rename_i target _
      cases links with
      | zero => cases h
      | succ n => exact ih directory target hdir h
    · rename_i hdirectory _
      cases h
      exact ⟨named_concat hdir hlast hdots.1.1 hdots.1.2, hdirectory⟩

theorem isFree_createLocation {tree : FileTree} {found : Location} {p : Path}
    (h : tree.createLocation p = .ok found) : tree.IsFree found := by
  unfold createLocation at h
  split at h
  · rename_i last hlast
    obtain ⟨directory, hdirectory, h⟩ := exists_of_bind_eq_ok h
    have hdir : directory.Named :=
      named_followToDirectory (named_startOf tree.named_current p) hdirectory
    split at h
    · cases h
    rename_i hdots
    simp only [Bool.or_eq_true, decide_eq_true_eq, not_or] at hdots
    split at h
    · cases h
    split at h
    · cases h
    · rename_i hnone
      cases h
      refine ⟨named_concat hdir hlast hdots.1 hdots.2, fun hentry => hnone ?_⟩
      rw [hentry, Option.isSome_some]
  · cases h

/-- Writes a file, in place of the content that it has. -/
def write (tree : FileTree) (p : Path) (content : Bytes) : Except FileError FileTree := do
  checkPath p
  match h : tree.writeLocation linkLimit tree.current p with
  | .ok here => return tree.set here (.file content) (isFree_writeLocation tree.named_current h)
  | .error e => .error e

/-- Puts an entry at a path where nothing is yet, in a directory that exists. -/
def create (tree : FileTree) (p : Path) (entry : Entry) : Except FileError FileTree := do
  checkPath p
  match h : tree.createLocation p with
  | .ok here => return tree.set here entry (isFree_createLocation h)
  | .error e => .error e

/-- The tree with another working directory, if directories lead to it. -/
def enter? (tree : FileTree) (current : Location) : Option FileTree :=
  if h : ∀ n < current.length, (current.take (n + 1), Entry.directory) ∈ tree.entries then
    some
      { tree with
        current
        reached := by
          intro front hfront hne
          have hpos := List.length_pos_iff.2 hne
          have hentry := h (front.length - 1) (by have := hfront.length_le; omega)
          rwa [Nat.sub_add_cancel hpos, ← List.prefix_iff_eq_take.1 hfront] at hentry }
  else none

/-- Makes the first of some paths a directory, where each path is the parent of the one before it
and is made first when it is missing. The tree that is returned has all directories that were made,
also when one could not be. -/
def createAll (tree : FileTree) : List Path → FileTree × Option FileError
  | [] => (tree, none)
  | p :: parents =>
    match tree.create p .directory with
    | .ok made => (made, none)
    | .error .notFound =>
      match tree.createAll parents with
      | (made, some e) => (made, some e)
      | (made, none) =>
        match made.create p .directory with
        | .ok both => (both, none)
        | .error e => (made, if made.isDirectory p then none else some e)
    | .error e => (tree, if tree.isDirectory p then none else some e)

/-- Makes a directory together with the parents that are missing. -/
def createDirectories (tree : FileTree) (p : Path) : FileTree × Option FileError :=
  tree.createAll p.ancestors

end FileTree

end ApexOutline
