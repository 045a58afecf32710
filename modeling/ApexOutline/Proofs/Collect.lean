import ApexOutline.Proofs.Run.Inputs
import ApexOutline.Proofs.Text.AsciiCase
/-!
# Collecting is exact

Which files an input stands for is said here without the walk: `Descends` tells which directories are reached
below an input, through links as long as they do not lead back to a directory on the way, and `Finds` which
files stand in them. The walk meets exactly these (`mem_walk_iff`), one step of it is one step of the descent
(`walk_subset_of_directory`, `walk_subset_of_link`). So the collected files are the found ones with a wanted
extension, in the order of paths, and more extensions only add files (`collectFiles_exact`).
-/

namespace ApexOutline

open Text

namespace FileTree

variable {tree : FileTree} {links : Nat} {here found : Location} {above : List Location} {input p q : Path}
  {name : Text} {content : Bytes}

/-! ## Entries -/

theorem mem_children_iff {entry : Entry} :
    (name, entry) ∈ tree.children here ↔ tree.get? (here ++ [name]) = some entry := by
  constructor
  · exact fun h => get?_of_mem_entries (mem_entries_of_mem_children h) (by simp)
  · intro h
    refine List.mem_filterMap.2 ⟨_, mem_entries_of_get? (by simp) h, ?_⟩
    simp [child?]

theorem isName_of_get? {entry : Entry} (h : tree.get? (here ++ [name]) = some entry) : Path.IsName name :=
  isName_of_mem_children (mem_children_iff.2 h)

/-! ## What a path leads to -/

/-- The location has no link on the way to it, and is none itself. -/
structure Settled (tree : FileTree) (here : Location) : Prop where
  above : ∀ front, front <+: here → front ≠ here → tree.get? front = some .directory
  entry : tree.get? here = some .directory ∨ ∃ content, tree.get? here = some (.file content)

theorem settled_root (tree : FileTree) : tree.Settled [] where
  above _ hfront hne := absurd (List.prefix_nil.1 hfront) hne
  entry := .inl rfl

theorem settled_current (tree : FileTree) : tree.Settled tree.current := by
  have hdir (front : Location) (hfront : front <+: tree.current) :
      tree.get? front = some .directory := by
    by_cases hne : front = []
    · rw [hne]
      rfl
    · exact get?_of_mem_entries (tree.reached front hfront hne) hne
  exact ⟨fun front hfront _ => hdir front hfront, .inl (hdir _ (List.prefix_refl _))⟩

theorem settled_startOf (h : tree.Settled here) (p : Path) : tree.Settled (startOf here p) := by
  unfold startOf
  split
  · exact settled_root tree
  · exact h

theorem Settled.dropLast (h : tree.Settled here) : tree.Settled here.dropLast := by
  by_cases hne : here = []
  · subst hne
    exact h
  have hshorter {front : Location} (hfront : front <+: here.dropLast) : front ≠ here := by
    rintro rfl
    have hlength := hfront.length_le
    have hpos := List.length_pos_of_ne_nil hne
    rw [List.length_dropLast] at hlength
    omega
  refine ⟨fun front hfront _ => ?_, .inl ?_⟩
  · exact h.above front (hfront.trans (List.dropLast_prefix here)) (hshorter hfront)
  · exact h.above _ (List.dropLast_prefix here) (hshorter (List.prefix_refl _))

theorem Settled.concat {entry : Entry} (h : tree.Settled here) (hdir : tree.get? here = some .directory)
    (hentry : tree.get? (here ++ [name]) = some entry) (hlink : ∀ target, entry ≠ .link target) :
    tree.Settled (here ++ [name]) := by
  constructor
  · intro front hfront hne
    rcases List.prefix_concat_iff.1 hfront with heq | hfront
    · exact absurd heq hne
    · by_cases heq : front = here
      · rwa [heq]
      · exact h.above front hfront heq
  · cases entry with
    | file content => exact .inr ⟨content, hentry⟩
    | directory => exact .inl hentry
    | link target => exact absurd rfl (hlink target)

/-- Paths lead to files and directories, never to a link. -/
theorem settled_follow {parts : List Text} (hhere : tree.Settled here)
    (h : tree.follow links here parts = .ok found) : tree.Settled found := by
  fun_induction follow tree links here parts
  case case1 =>
    cases h
    exact hhere
  case case3 ih => exact ih hhere h
  case case4 ih => exact ih hhere.dropLast h
  case case8 ih => exact ih (settled_startOf hhere _) h
  case case9 hdir _ _ _ entry hlink hentry ih =>
    exact ih (hhere.concat (not_not.1 hdir) hentry hlink) h
  case case2 | case5 | case6 | case7 => cases h

theorem isFile_iff : tree.isFile p = true ↔
    ∃ here content, tree.locate p = .ok here ∧ tree.get? here = some (.file content) := by
  unfold isFile find?
  cases tree.locate p with
  | error cause => simp
  | ok here =>
    rcases hentry : tree.get? here with _ | _ | _ | _
    all_goals simp [hentry]

theorem isDirectory_iff : tree.isDirectory p = true ↔
    ∃ here, tree.locate p = .ok here ∧ tree.get? here = some .directory := by
  unfold isDirectory find?
  cases tree.locate p <;> simp

/-- A path that leads anywhere leads to a file or to a directory. -/
theorem contains_iff : tree.contains p = true ↔ tree.isFile p = true ∨ tree.isDirectory p = true := by
  rw [isFile_iff, isDirectory_iff]
  unfold contains find?
  cases hlocate : tree.locate p with
  | error cause => simp
  | ok here =>
    obtain ⟨-, -, hfollow⟩ := exists_of_bind_eq_ok hlocate
    rcases (settled_follow (settled_startOf tree.settled_current p) hfollow).entry with hentry | ⟨content, hentry⟩
    all_goals simp [hentry]

/-! ## Descending -/

/-- Descending from the input leads to the directory `here` at the path, through the directories `above`, the
nearest first. -/
inductive Descends (tree : FileTree) (input : Path) : Path → Location → List Location → Prop
  | start {here : Location} : tree.locate input = .ok here → tree.get? here = some .directory →
      Descends tree input input here []
  | directory {p : Path} {here : Location} {above : List Location} {name : Text} :
      Descends tree input p here above → tree.get? (here ++ [name]) = some .directory →
      Descends tree input (p.join name) (here ++ [name]) (here :: above)
  -- A link to a directory, which is none of those on the way.
  | link {p : Path} {here : Location} {above : List Location} {name : Text} {dest : Path} {target : Location} :
      Descends tree input p here above → tree.get? (here ++ [name]) = some (.link dest) →
      tree.locate (p.join name) = .ok target → tree.get? target = some .directory →
      target ∉ here :: above → Descends tree input (p.join name) target (here :: above)

/-- The path is that of a file, or of a link to one, in a directory that descending from the input leads to. -/
inductive Finds (tree : FileTree) (input : Path) : Path → Prop
  | file {p : Path} {here : Location} {above : List Location} {name : Text} {content : Bytes} :
      Descends tree input p here above → tree.get? (here ++ [name]) = some (.file content) →
      Finds tree input (p.join name)
  | link {p : Path} {here : Location} {above : List Location} {name : Text} {dest : Path} {target : Location}
      {content : Bytes} : Descends tree input p here above →
      tree.get? (here ++ [name]) = some (.link dest) → tree.locate (p.join name) = .ok target →
      tree.get? target = some (.file content) → Finds tree input (p.join name)

/-! ## One step of the walk -/

theorem mem_walk_of_file (inside : List Location) (p : Path)
    (h : tree.get? (here ++ [name]) = some (.file content)) : p.join name ∈ tree.walk inside here p := by
  rw [walk]
  exact List.mem_flatMap.2 ⟨⟨_, mem_children_iff.2 h⟩, List.mem_attach _ _, List.mem_singleton.2 rfl⟩

theorem walk_subset_of_directory (inside : List Location) (p : Path)
    (h : tree.get? (here ++ [name]) = some .directory) :
    tree.walk ((here ++ [name]) :: inside) (here ++ [name]) (p.join name) ⊆ tree.walk inside here p := by
  intro q hq
  rw [walk]
  exact List.mem_flatMap.2 ⟨⟨_, mem_children_iff.2 h⟩, List.mem_attach _ _, hq⟩

theorem mem_walk_of_link {dest : Path} {target : Location} (inside : List Location)
    (h : tree.get? (here ++ [name]) = some (.link dest)) (hlocate : tree.locate (p.join name) = .ok target)
    (hfile : tree.get? target = some (.file content)) : p.join name ∈ tree.walk inside here p := by
  rw [walk]
  refine List.mem_flatMap.2 ⟨⟨_, mem_children_iff.2 h⟩, List.mem_attach _ _, ?_⟩
  dsimp only
  rw [hlocate]
  dsimp only
  split
  · exact List.mem_singleton.2 rfl
  · rename_i hdir
    cases hfile.symm.trans hdir
  · rename_i hfiles _
    exact absurd hfile (hfiles content)

theorem walk_subset_of_link {dest : Path} {target : Location} {inside : List Location}
    (h : tree.get? (here ++ [name]) = some (.link dest)) (hlocate : tree.locate (p.join name) = .ok target)
    (hdir : tree.get? target = some .directory) (hinside : target ∉ inside) :
    tree.walk (target :: inside) target (p.join name) ⊆ tree.walk inside here p := by
  intro q hq
  nth_rewrite 1 [walk]
  refine List.mem_flatMap.2 ⟨⟨_, mem_children_iff.2 h⟩, List.mem_attach _ _, ?_⟩
  dsimp only
  rw [hlocate]
  dsimp only
  split
  · rename_i hfile
    cases hdir.symm.trans hfile
  · rwa [dif_neg hinside]
  · rename_i _ hdirs
    exact absurd hdir hdirs

/-! ## The whole walk -/

/-- The walk meets only what is found. -/
theorem finds_of_mem_walk {inside : List Location} (hinside : inside = here :: above)
    (hdescends : Descends tree input p here above) (hq : q ∈ tree.walk inside here p) :
    Finds tree input q := by
  induction inside, here, p using walk.induct tree generalizing above with
  | case1 inside here p ihDirectory ihLink =>
    subst hinside
    rw [walk] at hq
    obtain ⟨⟨⟨name, entry⟩, hc⟩, -, hq⟩ := List.mem_flatMap.1 hq
    have hentry := mem_children_iff.1 hc
    dsimp only at hq
    split at hq
    · rw [List.mem_singleton.1 hq]
      exact .file hdescends hentry
    · exact ihDirectory _ hc rfl (.directory hdescends hentry) hq
    · rename_i dest
      split at hq
      · cases hq
      · rename_i target hlocate
        split at hq
        · rename_i hfile
          rw [List.mem_singleton.1 hq]
          exact .link hdescends hentry hlocate hfile
        · rename_i hdirectory
          split at hq
          · cases hq
          · rename_i hnew
            have hlink := Descends.link hdescends hentry hlocate hdirectory hnew
            exact ihLink (name, .link dest) target hdirectory hnew rfl hlink hq
        · cases hq

/-- What the walk meets in a directory that is reached, it meets from the input on. -/
theorem Descends.walk_subset {top : Location} (htop : tree.locate input = .ok top)
    (h : Descends tree input p here above) :
    tree.walk (here :: above) here p ⊆ tree.walk [top] top input := by
  induction h with
  | start hlocate _ =>
    cases htop.symm.trans hlocate
    exact List.Subset.refl _
  | directory _ hentry ih => exact List.Subset.trans (walk_subset_of_directory _ _ hentry) ih
  | link _ hentry hlocate hdir hnew ih =>
    exact List.Subset.trans (walk_subset_of_link hentry hlocate hdir hnew) ih

/-- The walk below an input meets exactly the files that descending from it finds. -/
theorem mem_walk_iff {top : Location} (htop : tree.locate input = .ok top)
    (hdir : tree.get? top = some .directory) : q ∈ tree.walk [top] top input ↔ Finds tree input q := by
  constructor
  · exact fun hq => finds_of_mem_walk rfl (.start htop hdir) hq
  · rintro (⟨hdescends, hentry⟩ | ⟨hdescends, hentry, hlocate, hfile⟩)
    · exact hdescends.walk_subset htop (mem_walk_of_file _ _ hentry)
    · exact hdescends.walk_subset htop (mem_walk_of_link _ hentry hlocate hfile)

/-! ## Found paths are paths of files -/

/-- The names in the tree can be looked up: they have no NUL character and are not too long. -/
def Nameable (tree : FileTree) : Prop :=
  ∀ e ∈ tree.entries, ∀ name ∈ e.1, '\x00' ∉ name ∧ (encodeUtf8 name).length ≤ nameLimit

/-- One more name leads from a directory to what stands there, unless that is a link. -/
theorem follow_concat {parts : List Text} {entry : Entry} (hname : Path.IsName name)
    (hlength : (encodeUtf8 name).length ≤ nameLimit)
    (hentry : tree.get? (found ++ [name]) = some entry) (hlink : ∀ target, entry ≠ .link target)
    (hdir : tree.get? found = some .directory) (h : tree.follow links here parts = .ok found) :
    tree.follow links here (parts ++ [name]) = .ok (found ++ [name]) := by
  fun_induction follow tree links here parts
  case case1 links here =>
    cases h
    rw [List.nil_append, follow]
    cases entry with
    | link target => exact absurd rfl (hlink target)
    | file | directory =>
      simp only [hdir, hname.ne_current, hname.ne_parent, not_lt.2 hlength, hentry, ne_eq, not_true, if_false,
        follow]
  case case3 hhere ih =>
    rw [List.cons_append, follow]
    simp only [hhere, if_true, if_false, ih h]
  case case4 hhere hdot ih =>
    rw [List.cons_append, follow]
    simp only [hhere, hdot, if_true, if_false, ih h]
  case case8 hhere hdot hparent hlimit target htarget n ih =>
    rw [List.cons_append, follow]
    simp only [hhere, hdot, hparent, hlimit, htarget, if_false]
    rw [← List.append_assoc, ih h]
  case case9 hhere hdot hparent hlimit passed hpassed htarget ih =>
    rw [List.cons_append, follow]
    cases passed with
    | link target => exact absurd rfl (hpassed target)
    | file | directory => simp only [hhere, hdot, hparent, hlimit, htarget, if_false, ih h]
  case case2 | case5 | case6 | case7 => cases h

theorem checkPath_join (hnul : '\x00' ∉ name) (h : checkPath p = .ok ()) :
    checkPath (p.join name) = .ok () := by
  have hchecked (p : Path) : checkPath p = .ok () ↔ '\x00' ∉ p ∧ p ≠ [] := by
    unfold checkPath
    by_cases hnul : '\x00' ∈ p
    · simp [hnul]
    · by_cases hempty : p = [] <;> simp [hnul, hempty]
  rw [hchecked] at h ⊢
  obtain ⟨hp, hne⟩ := h
  unfold Path.join
  split
  · exact ⟨by simp [hp, hnul], by simp [hne]⟩
  · exact ⟨by simp [hp, hnul], by simp⟩

theorem startOf_join (hname : Path.IsName name) (p : Path) : startOf here (p.join name) = startOf here p := by
  unfold startOf
  rw [Path.isAbsolute_join p hname]

/-- The path of an entry of a directory leads to the entry, unless that is a link. -/
theorem locate_join {entry : Entry} (hnames : tree.Nameable) (h : tree.locate p = .ok here)
    (hdir : tree.get? here = some .directory) (hentry : tree.get? (here ++ [name]) = some entry)
    (hlink : ∀ target, entry ≠ .link target) : tree.locate (p.join name) = .ok (here ++ [name]) := by
  have hname := isName_of_get? hentry
  obtain ⟨hnul, hlength⟩ := hnames _ (mem_entries_of_get? (by simp) hentry) name (by simp)
  obtain ⟨⟨⟩, hcheck, hfollow⟩ := exists_of_bind_eq_ok h
  have hsteps := follow_concat hname hlength hentry hlink hdir hfollow
  have hway : SameWay (steps p ++ [name]) (steps (p.join name)) := by
    rw [(endsInName_join p hname).steps_eq, Path.parts_join p hname]
    unfold steps
    split
    · rw [List.append_assoc]
      exact .append_left _ (.dot (List.cons_ne_nil _ _) (SameWay.nil.cons name))
    · rw [List.append_nil]
      exact .append_left _ (SameWay.nil.cons name)
  unfold locate
  rw [checkPath_join hnul hcheck, startOf_join hname, ← hway.follow_eq, hsteps]
  rfl

theorem Descends.get?_eq (h : Descends tree input p here above) : tree.get? here = some .directory := by
  cases h with
  | start _ hdir | directory _ hdir | link _ _ _ hdir _ => exact hdir

theorem Descends.locate_eq (hnames : tree.Nameable) (h : Descends tree input p here above) :
    tree.locate p = .ok here := by
  induction h with
  | start hlocate _ => exact hlocate
  | directory hdescends hentry ih => exact locate_join hnames ih hdescends.get?_eq hentry (by simp)
  | link _ _ hlocate _ _ _ => exact hlocate

/-- A path that is found leads to a file. -/
theorem Finds.isFile (hnames : tree.Nameable) (h : Finds tree input q) : tree.isFile q = true := by
  rw [isFile_iff]
  cases h with
  | file hdescends hentry =>
    exact ⟨_, _, locate_join hnames (hdescends.locate_eq hnames) hdescends.get?_eq hentry (by simp), hentry⟩
  | link _ _ hlocate hfile => exact ⟨_, _, hlocate, hfile⟩

end FileTree

/-! ## Extensions -/

/-- The extension of the path is one of the list, but for ASCII case and for dots in front of the one in the
list. -/
def Path.HasExtensionOf (p : Path) (extensions : List Text) : Prop :=
  ∃ found ∈ p.extension?, ∃ wanted ∈ extensions, lowerAscii found = lowerAscii (wanted.dropWhile (· == '.'))

theorem Path.hasExtension_iff {p : Path} {extensions : List Text} :
    p.hasExtension extensions = true ↔ p.HasExtensionOf extensions := by
  simp [hasExtension, HasExtensionOf, Option.any_eq_true, eqIgnoringAsciiCase]

theorem Path.HasExtensionOf.mono {p : Path} {extensions extensions' : List Text}
    (h : p.HasExtensionOf extensions) (hsubset : extensions ⊆ extensions') : p.HasExtensionOf extensions' := by
  obtain ⟨found, hfound, wanted, hwanted, heq⟩ := h
  exact ⟨found, hfound, wanted, hsubset hwanted, heq⟩

theorem subset_addExtension (extensions : List Text) (extension : Text) :
    extensions ⊆ addExtension extensions extension := by
  unfold addExtension
  split
  · exact List.Subset.refl _
  · exact List.subset_append_left _ _

/-- An extension that is added is in the list, in some ASCII case. -/
theorem exists_mem_addExtension (extensions : List Text) (extension : Text) :
    ∃ e ∈ addExtension extensions extension, lowerAscii e = lowerAscii extension := by
  unfold addExtension
  split
  · rename_i hany
    simpa [eqIgnoringAsciiCase] using hany
  · exact ⟨extension, by simp, rfl⟩

theorem mem_of_mem_addExtension {extensions : List Text} {extension e : Text}
    (h : e ∈ addExtension extensions extension) : e ∈ extensions ∨ e = extension := by
  unfold addExtension at h
  split at h
  · exact .inl h
  · simpa using h

/-- A list with an added extension has the wanted extensions of the list and the added one. -/
theorem Path.hasExtensionOf_addExtension {p : Path} {extensions : List Text} {extension : Text} :
    p.HasExtensionOf (addExtension extensions extension) ↔
      p.HasExtensionOf extensions ∨ p.HasExtensionOf [extension] := by
  constructor
  · rintro ⟨found, hfound, wanted, hwanted, heq⟩
    rcases mem_of_mem_addExtension hwanted with hwanted | rfl
    · exact .inl ⟨found, hfound, wanted, hwanted, heq⟩
    · exact .inr ⟨found, hfound, wanted, List.mem_singleton_self wanted, heq⟩
  · rintro (h | ⟨found, hfound, wanted, hwanted, heq⟩)
    · exact h.mono (subset_addExtension extensions extension)
    · obtain ⟨e, he, hcase⟩ := exists_mem_addExtension extensions extension
      have hdots : CaseBlind (· == '.') := caseBlind_beq (by decide)
      refine ⟨found, hfound, e, he, ?_⟩
      rw [heq, List.mem_singleton.1 hwanted, ← dropWhile_lowerAscii hdots, ← dropWhile_lowerAscii hdots, hcase]

/-! ## Collected files -/

variable {tree : FileTree} {extensions extensions' : List Text} {input q : Path}

theorem collected_of_file (h : tree.isFile input = true) (extensions : List Text) :
    collected tree extensions input = if input.hasExtension extensions then [input] else [] := by
  obtain ⟨here, content, hlocate, hfile⟩ := FileTree.isFile_iff.1 h
  simp only [collected, collectFiles, hlocate, hfile]
  rfl

theorem mem_collected_iff (h : tree.isDirectory input = true) :
    q ∈ collected tree extensions input ↔ tree.Finds input q ∧ q.HasExtensionOf extensions := by
  obtain ⟨here, hlocate, hdir⟩ := FileTree.isDirectory_iff.1 h
  simp only [collected, collectFiles, hlocate, hdir]
  change q ∈ Path.sort _ ↔ _
  rw [(Path.perm_sort _).mem_iff, List.mem_filter, FileTree.mem_walk_iff hlocate hdir, Path.hasExtension_iff]

theorem collected_subset (h : extensions ⊆ extensions') (hinput : tree.contains input = true) :
    collected tree extensions input ⊆ collected tree extensions' input := by
  intro q hq
  rcases FileTree.contains_iff.1 hinput with hfile | hdir
  · rw [collected_of_file hfile, List.mem_ite_nil_right, Path.hasExtension_iff] at hq ⊢
    exact ⟨hq.1.mono h, hq.2⟩
  · rw [mem_collected_iff hdir] at hq ⊢
    exact ⟨hq.1, hq.2.mono h⟩

/-- More extensions only add paths. -/
theorem collected_sublist (h : extensions ⊆ extensions') (hinput : tree.contains input = true) :
    (collected tree extensions input).Sublist (collected tree extensions' input) := by
  have hasymm : Std.Antisymm fun p q : Path => p.key < q.key :=
    ⟨fun _ _ hpq hqp => absurd hqp hpq.asymm⟩
  have hsorted := pairwise_collected tree extensions input
  have hnodup : (collected tree extensions input).Nodup :=
    hsorted.imp fun hlt heq => hlt.ne (congrArg Path.key heq)
  exact List.sublist_of_subperm_of_pairwise (hnodup.subperm (collected_subset h hinput)) hsorted
    (pairwise_collected tree extensions' input)

/-- An input that leads anywhere stands for exactly the right files. A file stands for itself when it has a
wanted extension. A directory stands for the files with a wanted extension that descending from it finds, in
the strict order of paths, and these are paths of files when the names in the tree can be looked up. More
extensions only add paths, and an extension that is added adds the files that have it. -/
theorem collectFiles_exact {tree : FileTree} {input : Path} (extensions : List Text)
    (h : tree.contains input = true) :
    ∃ paths, collectFiles tree extensions input = .ok paths ∧
      (tree.isFile input = true ∨ tree.isDirectory input = true) ∧
      (tree.isFile input = true → (input.HasExtensionOf extensions → paths = [input]) ∧
        (¬ input.HasExtensionOf extensions → paths = [])) ∧
      (tree.isDirectory input = true → paths.Pairwise (fun p q => p.key < q.key) ∧
        (∀ q, q ∈ paths ↔ tree.Finds input q ∧ q.HasExtensionOf extensions) ∧
        (tree.Nameable → ∀ q ∈ paths, tree.isFile q = true)) ∧
      (∀ extensions', extensions ⊆ extensions' →
        ∃ paths', collectFiles tree extensions' input = .ok paths' ∧ paths.Sublist paths') ∧
      ∀ extension, ∃ paths', collectFiles tree (addExtension extensions extension) input = .ok paths' ∧
        paths.Sublist paths' ∧
        (tree.isFile input = true → input.HasExtensionOf [extension] → paths' = [input]) ∧
        (tree.isDirectory input = true → ∀ q, q ∈ paths' ↔
          q ∈ paths ∨ tree.Finds input q ∧ q.HasExtensionOf [extension]) := by
  have hok (extensions : List Text) :
      collectFiles tree extensions input = .ok (collected tree extensions input) := by
    rw [collectFiles_eq, if_pos h]
  refine ⟨_, hok extensions, FileTree.contains_iff.1 h, fun hfile => ?_, fun hdir => ⟨?_, ?_, ?_⟩, ?_, ?_⟩
  · rw [collected_of_file hfile]
    simp only [← Path.hasExtension_iff]
    exact ⟨fun hext => if_pos hext, fun hext => if_neg hext⟩
  · exact pairwise_collected tree extensions input
  · exact fun q => mem_collected_iff hdir
  · exact fun hnames q hq => ((mem_collected_iff hdir).1 hq).1.isFile hnames
  · exact fun extensions' hsubset => ⟨_, hok extensions', collected_sublist hsubset h⟩
  · intro extension
    have hsubset := subset_addExtension extensions extension
    refine ⟨_, hok _, collected_sublist hsubset h, fun hfile hext => ?_, fun hdir q => ?_⟩
    · rw [collected_of_file hfile]
      exact if_pos (Path.hasExtension_iff.2 (Path.hasExtensionOf_addExtension.2 (.inr hext)))
    · rw [mem_collected_iff hdir, mem_collected_iff hdir, Path.hasExtensionOf_addExtension, and_or_left]

/-- The working directory `home` with a directory, which holds a file and a link back to `home`; absolute and
relative links, to another directory, to the file and to nothing. -/
def linkedTree : FileTree where
  entries := [(["home".toList], .directory), (["home".toList, "a".toList], .directory),
    (["home".toList, "a".toList, "A.cls".toList], .file []),
    (["home".toList, "a".toList, "up".toList], .link "/home".toList),
    (["home".toList, "b".toList], .link "/lib".toList),
    (["home".toList, "c.CLS".toList], .link "a/A.cls".toList),
    (["home".toList, "d.cls".toList], .link "none".toList),
    (["lib".toList], .directory), (["lib".toList, "B.cls".toList], .file [])]
  distinct := by decide
  named := by decide
  current := ["home".toList]
  reached := by
    intro front hfront hne
    rw [List.prefix_cons_iff] at hfront
    rcases hfront with rfl | ⟨rest, rfl, hrest⟩
    · exact absurd rfl hne
    · rw [List.prefix_nil.1 hrest]
      exact List.mem_cons_self

/-- The file is found in its directory and through the link to it, and a file elsewhere through a link to its
directory; neither the link back nor the link to nothing adds any. The directory elsewhere can be named itself. -/
theorem collectFiles_exact_links :
    linkedTree.contains ".".toList = true ∧ linkedTree.isDirectory ".".toList = true ∧
      (∀ q : Path, q ∈ ["./a/A.cls".toList, "./b/B.cls".toList, "./c.CLS".toList] ↔
        linkedTree.Finds ".".toList q ∧ q.HasExtensionOf ["..cls".toList]) ∧
      linkedTree.contains "/lib".toList = true ∧ linkedTree.isDirectory "/lib".toList = true ∧
      ∀ q : Path, q ∈ ["/lib/B.cls".toList] ↔
        linkedTree.Finds "/lib".toList q ∧ q.HasExtensionOf ["..cls".toList] := by
  have hcontains : linkedTree.contains ".".toList = true := by cbv
  have hdir : linkedTree.isDirectory ".".toList = true := by cbv
  have hcollect : collectFiles linkedTree ["..cls".toList] ".".toList =
      .ok ["./a/A.cls".toList, "./b/B.cls".toList, "./c.CLS".toList] := by cbv
  have hcontains' : linkedTree.contains "/lib".toList = true := by cbv
  have hdir' : linkedTree.isDirectory "/lib".toList = true := by cbv
  have hcollect' : collectFiles linkedTree ["..cls".toList] "/lib".toList = .ok ["/lib/B.cls".toList] := by cbv
  obtain ⟨paths, hpaths, -, -, hexact, -⟩ := collectFiles_exact ["..cls".toList] hcontains
  obtain ⟨paths', hpaths', -, -, hexact', -⟩ := collectFiles_exact ["..cls".toList] hcontains'
  cases hcollect.symm.trans hpaths
  cases hcollect'.symm.trans hpaths'
  exact ⟨hcontains, hdir, (hexact hdir).2.1, hcontains', hdir', (hexact' hdir').2.1⟩

end ApexOutline
