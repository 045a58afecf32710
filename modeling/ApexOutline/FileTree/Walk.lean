import ApexOutline.FileTree.Basic
/-!
# Walking a tree

All files below a directory, found by descending through directories and through links to
directories. A link is looked up by its whole path, so the links above it count towards the limit. A
link to a directory that the walk is inside of is not followed; nothing else can make a walk endless,
because directories that are no links nest only finitely deep.
-/

namespace ApexOutline.FileTree

open Text

/-- The directories of a tree. -/
def directories (tree : FileTree) : List Location :=
  [] :: (tree.entries.filter (·.2 == .directory)).map (·.1)

/-- The name of an entry in the directory `here`, when it is in there. -/
def child? (here : Location) (e : Location × Entry) : Option (Text × Entry) :=
  match e.1.getLast? with
  | some name => if e.1.dropLast = here then some (name, e.2) else none
  | none => none

theorem eq_of_child? {here : Location} {e : Location × Entry} {c : Text × Entry}
    (h : child? here e = some c) : e = (here ++ [c.1], c.2) := by
  obtain ⟨location, entry⟩ := e
  unfold child? at h
  split at h
  · rename_i name hname
    split at h
    · rename_i hhere
      cases h
      obtain ⟨front, hfront⟩ := List.getLast?_eq_some_iff.1 hname
      simp only at hfront hhere
      rw [← hhere, hfront, List.dropLast_concat]
    · cases h
  · cases h

/-- The names in a directory with their entries. -/
def children (tree : FileTree) (here : Location) : List (Text × Entry) :=
  tree.entries.filterMap (child? here)

theorem mem_entries_of_mem_children {tree : FileTree} {here : Location} {c : Text × Entry}
    (h : c ∈ tree.children here) : (here ++ [c.1], c.2) ∈ tree.entries := by
  obtain ⟨e, he, hc⟩ := List.mem_filterMap.1 h
  rwa [← eq_of_child? hc]

theorem mem_directories_of_get? {tree : FileTree} {here : Location}
    (h : tree.get? here = some .directory) : here ∈ tree.directories := by
  unfold get? at h
  split at h
  · rename_i hn; simp [directories, List.isEmpty_iff.1 hn]
  · obtain ⟨front, rest, he, -⟩ := List.lookup_eq_some_iff.1 h
    simp only [directories, List.mem_cons, List.mem_map, List.mem_filter]
    exact .inr ⟨(here, .directory), ⟨by simp [he], by simp⟩, rfl⟩

theorem countP_lt_countP {α : Type} {p q : α → Bool} {l : List α} (h : ∀ a ∈ l, p a → q a)
    {a : α} (ha : a ∈ l) (hq : q a) (hp : ¬ p a) : l.countP p < l.countP q := by
  induction l with
  | nil => cases ha
  | cons b l ih =>
    have hle : l.countP p ≤ l.countP q :=
      List.countP_mono_left fun x hx => h x (List.mem_cons_of_mem _ hx)
    rcases List.mem_cons.1 ha with rfl | ha
    · rw [List.countP_cons_of_neg hp, List.countP_cons_of_pos hq]
      exact Nat.lt_succ_of_le hle
    · have := ih (fun x hx => h x (List.mem_cons_of_mem _ hx)) ha
      have hb : (if p b then 1 else 0) ≤ if q b then 1 else 0 := by
        by_cases hpb : p b
        · exact Nat.le_of_eq ((if_pos hpb).trans (if_pos (h b (List.mem_cons_self ..) hpb)).symm)
        · exact Nat.le_trans (Nat.le_of_eq (if_neg hpb)) (Nat.zero_le _)
      rw [List.countP_cons, List.countP_cons]
      omega

/-- Whether a location lies strictly below another. -/
def isBelow (here other : Location) : Bool :=
  here.isPrefixOf other && here != other

theorem isBelow_of_isBelow_child {here other : Location} {name : Text}
    (h : isBelow (here ++ [name]) other) : isBelow here other := by
  simp only [isBelow, Bool.and_eq_true, bne_iff_ne, List.isPrefixOf_iff_prefix] at h ⊢
  obtain ⟨⟨t, rfl⟩, -⟩ := h
  exact ⟨⟨name :: t, by simp⟩, by simp⟩

/-- The files below the directory `here`, as paths that start with `p`. The walk is inside the
directories `inside`, the one at `here` included. -/
def walk (tree : FileTree) (inside : List Location) (here : Location) (p : Path) : List Path :=
  (tree.children here).attach.flatMap fun ⟨c, _hc⟩ =>
    let path := p.join c.1
    match c.2 with
    | .file _ => [path]
    | .directory => tree.walk ((here ++ [c.1]) :: inside) (here ++ [c.1]) path
    | .link _ =>
      match tree.locate path with
      | .error _ => []
      | .ok target =>
        match _hT : tree.get? target with
        | some (.file _) => [path]
        | some .directory =>
          if _hI : target ∈ inside then [] else tree.walk (target :: inside) target path
        | _ => []
  termination_by (tree.directories.countP (· ∉ inside), tree.entries.countP (isBelow here ·.1))
  decreasing_by
    · have hle : tree.directories.countP (· ∉ (here ++ [c.1]) :: inside) ≤
          tree.directories.countP (· ∉ inside) :=
        List.countP_mono_left fun x _ hx => by simp_all
      have hlt : tree.entries.countP (isBelow (here ++ [c.1]) ·.1) <
          tree.entries.countP (isBelow here ·.1) :=
        countP_lt_countP (fun x _ => isBelow_of_isBelow_child) (mem_entries_of_mem_children _hc)
          (by simp [isBelow]) (by simp [isBelow])
      rcases Nat.lt_or_eq_of_le hle with h | h
      · exact Prod.Lex.left _ _ h
      · rw [h]; exact Prod.Lex.right _ hlt
    · exact Prod.Lex.left _ _ (countP_lt_countP (fun x _ hx => by simp_all)
        (mem_directories_of_get? _hT) (by simpa using _hI) (by simp))

end ApexOutline.FileTree
