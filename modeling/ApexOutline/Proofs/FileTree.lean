import ApexOutline.FileTree.Walk
import ApexOutline.Proofs.Path
/-!
# Paths in a tree

Dots inside a path lead nowhere else (`SameWay.follow_eq`), so two paths with the same components lead to
the same place, unless one of them ends in a dot or a slash and asks for a directory (`read_congr`). The
paths that a walk finds do not, and no two of them have the same components (`below_walk`).
-/

namespace ApexOutline.FileTree

open Text

variable {tree : FileTree} {links : Nat} {here found : Location} {p q : Path}

/-! ## Dots -/

/-- The parts are the same but for dots with parts behind them. -/
inductive SameWay : List Text → List Text → Prop
  | nil : SameWay [] []
  | cons {xs ys : List Text} (part : Text) : SameWay xs ys → SameWay (part :: xs) (part :: ys)
  | dot {xs ys : List Text} : xs ≠ [] → SameWay xs ys → SameWay (['.'] :: xs) ys

namespace SameWay

variable {xs ys : List Text}

theorem ne_nil (h : SameWay xs ys) (hxs : xs ≠ []) : ys ≠ [] := by
  induction h with
  | nil => exact hxs
  | cons part _ _ => exact List.cons_ne_nil _ _
  | dot hne _ ih => exact ih hne

theorem append_left (pre : List Text) (h : SameWay xs ys) : SameWay (pre ++ xs) (pre ++ ys) := by
  induction pre with
  | nil => exact h
  | cons part pre ih => exact ih.cons part

theorem filter (h : xs.getLast? ≠ some ['.']) : SameWay xs (xs.filter (· ≠ ['.'])) := by
  induction xs with
  | nil => exact .nil
  | cons part xs ih =>
    by_cases hxs : xs = []
    · subst hxs
      have hpart : part ≠ ['.'] := by simpa using h
      simpa [hpart] using SameWay.nil.cons part
    rw [List.getLast?_cons_of_ne_nil hxs] at h
    by_cases hpart : part = ['.']
    · subst hpart
      simpa using SameWay.dot hxs (ih h)
    · simpa [hpart] using (ih h).cons part

theorem exists_of_cons {part : Text} (h : SameWay (part :: xs) ys) (hpart : part ≠ ['.']) :
    ∃ zs, ys = part :: zs ∧ SameWay xs zs := by
  cases h with
  | cons _ h => exact ⟨_, rfl, h⟩
  | dot => exact absurd rfl hpart

end SameWay

theorem follow_of_not_directory {parts : List Text} (h : tree.get? here ≠ some .directory)
    (hparts : parts ≠ []) : tree.follow links here parts = .error .notADirectory := by
  obtain ⟨part, rest, rfl⟩ := List.exists_cons_of_ne_nil hparts
  rw [follow, if_pos h]

/-- The same way leads to the same place. -/
theorem SameWay.follow_eq {xs ys : List Text} (h : SameWay xs ys) (tree : FileTree) (links : Nat)
    (here : Location) : tree.follow links here xs = tree.follow links here ys := by
  induction links, here, xs using follow.induct tree generalizing ys
  case case1 =>
    cases h
    rfl
  case case2 hdir =>
    rw [follow_of_not_directory hdir (List.cons_ne_nil _ _),
      follow_of_not_directory hdir (h.ne_nil (List.cons_ne_nil _ _))]
  case case3 hdir ih =>
    cases h with
    | cons _ h => simp only [follow, hdir, if_true, if_false, ih h]
    | dot _ h => simp only [follow, hdir, if_true, if_false, ih h]
  case case4 hdir hdot ih =>
    obtain ⟨zs, rfl, hrest⟩ := h.exists_of_cons hdot
    simp only [follow, hdir, hdot, if_true, if_false, ih hrest]
  case case8 hdir hdot hparent hlimit target hentry n ih =>
    obtain ⟨zs, rfl, hrest⟩ := h.exists_of_cons hdot
    rw [follow, follow]
    simp only [hdir, hdot, hparent, hlimit, hentry, if_false]
    rw [ih (hrest.append_left _)]
  case case9 hdir hdot hparent hlimit entry hlink hentry ih =>
    obtain ⟨zs, rfl, hrest⟩ := h.exists_of_cons hdot
    rw [follow, follow]
    cases entry with
    | link target => exact absurd rfl (hlink target)
    | file | directory => simp only [hdir, hdot, hparent, hlimit, hentry, if_false, ih hrest]
  case case5 hdot _ _ | case6 hdot _ _ _ | case7 hdot _ _ _ _ =>
    obtain ⟨zs, rfl, -⟩ := h.exists_of_cons hdot
    rw [follow, follow]
    simp only [*, if_false, if_true]

/-! ## Where a path leads -/

/-- The path ends in a name, not in a dot or a slash that asks for a directory. -/
def EndsInName (p : Path) : Prop :=
  (steps p).getLast? ≠ some ['.']

theorem EndsInName.steps_eq (h : EndsInName p) : steps p = p.parts := by
  unfold EndsInName steps at h
  unfold steps
  split
  · rename_i hslash
    simp [hslash] at h
  · exact List.append_nil _

theorem endsInName_join {name : Text} (p : Path) (h : Path.IsName name) : EndsInName (p.join name) := by
  unfold EndsInName steps
  rw [Path.endsInSlash_join p h, Path.parts_join p h]
  simpa using h.ne_current

theorem getLast?_of_cons {part : Text} {rest : List Text} (h : (part :: rest).getLast? = some ['.'])
    (hpart : part ≠ ['.']) : rest.getLast? = some ['.'] := by
  by_cases hrest : rest = []
  · subst hrest
    exact absurd (Option.some.inj h) hpart
  · rwa [List.getLast?_cons_of_ne_nil hrest] at h

/-- A path with a dot at its end leads to a directory. -/
theorem get?_of_follow_dot {parts : List Text} (hlast : parts.getLast? = some ['.'])
    (h : tree.follow links here parts = .ok found) : tree.get? found = some .directory := by
  fun_induction follow tree links here parts
  case case1 => cases hlast
  case case3 links here rest hdir ih =>
    by_cases hrest : rest = []
    · subst hrest
      rw [follow] at h
      cases h
      exact not_not.1 hdir
    · rw [List.getLast?_cons_of_ne_nil hrest] at hlast
      exact ih hlast h
  case case4 ih => exact ih (getLast?_of_cons hlast (by decide)) h
  case case8 hdot _ _ _ _ _ ih =>
    have hrest := getLast?_of_cons hlast hdot
    exact ih (by rw [List.getLast?_append, hrest, Option.some_or]) h
  case case9 hdot _ _ _ _ _ ih => exact ih (getLast?_of_cons hlast hdot) h
  case case2 | case5 | case6 | case7 => cases h

theorem endsInName_of_file {content : Bytes} (hlocate : tree.locate p = .ok here)
    (hfile : tree.get? here = some (.file content)) : EndsInName p := by
  intro hlast
  obtain ⟨-, -, hfollow⟩ := exists_of_bind_eq_ok hlocate
  rw [get?_of_follow_dot hlast hfollow] at hfile
  cases hfile

theorem checkPath_congr (h : p.components = q.components) : checkPath p = checkPath q := by
  have hempty : p.isEmpty = q.isEmpty := by
    rw [Bool.eq_iff_iff, List.isEmpty_iff, List.isEmpty_iff, Path.eq_nil_iff, Path.eq_nil_iff, h]
  have hnul (p : Path) : '\x00' ∈ p ↔ ∃ part ∈ p.components.filterMap Path.Component.part?,
      '\x00' ∈ part := by
    rw [Path.mem_iff_exists_parts (by decide), Path.filterMap_part?]
    constructor
    · rintro ⟨part, hpart, hmem⟩
      refine ⟨part, List.mem_filter.2 ⟨hpart, ?_⟩, hmem⟩
      rw [decide_eq_true_iff]
      rintro rfl
      simp at hmem
    · rintro ⟨part, hpart, hmem⟩
      exact ⟨part, List.mem_of_mem_filter hpart, hmem⟩
  have hcontains : p.contains '\x00' = q.contains '\x00' := by
    rw [Bool.eq_iff_iff, List.contains_iff_mem, List.contains_iff_mem, hnul, hnul, h]
  unfold checkPath
  rw [hcontains, hempty]

theorem startOf_congr (here : Location) (h : p.components = q.components) :
    startOf here p = startOf here q := by
  have habsolute : p.isAbsolute = q.isAbsolute := by
    rw [Bool.eq_iff_iff, Path.isAbsolute_iff, Path.isAbsolute_iff, h]
  unfold startOf
  rw [habsolute]

/-- Two paths with the same components that end in a name lead to the same place. -/
theorem locate_congr (tree : FileTree) (h : p.components = q.components) (hp : EndsInName p)
    (hq : EndsInName q) : tree.locate p = tree.locate q := by
  have hplain (start : Location) (p : Path) (hp : EndsInName p) : tree.follow linkLimit start (steps p) =
      tree.follow linkLimit start (p.components.filterMap Path.Component.part?) := by
    rw [Path.filterMap_part?, ← hp.steps_eq]
    exact (SameWay.filter hp).follow_eq tree linkLimit start
  unfold locate
  rw [checkPath_congr h, startOf_congr tree.current h, hplain _ p hp, hplain _ q hq, h]

theorem read_congr (tree : FileTree) (h : p.components = q.components) (hp : EndsInName p)
    (hq : EndsInName q) : tree.read p = tree.read q := by
  unfold read
  rw [locate_congr tree h hp hq]

/-! ## Walks -/

theorem isName_of_mem_children {c : Text × Entry} (h : c ∈ tree.children here) : Path.IsName c.1 :=
  tree.named _ (mem_entries_of_mem_children h) c.1 (by simp)

/-- No directory has two entries of one name. -/
theorem nodup_children (tree : FileTree) (here : Location) :
    ((tree.children here).map (·.1)).Nodup := by
  rw [List.Nodup, List.pairwise_map]
  refine List.pairwise_filterMap.2 ((List.pairwise_map.1 tree.distinct).imp ?_)
  intro e e' hne c hc c' hc' hname
  rw [eq_of_child? hc, eq_of_child? hc', hname] at hne
  exact hne rfl

/-- The paths lie below `p`: each starts with its components and ends in a name, and no two have the
same components. -/
structure Below (p : Path) (paths : List Path) : Prop where
  starts : ∀ q ∈ paths, p.components <+: q.components
  endsInName : ∀ q ∈ paths, EndsInName q
  distinct : (paths.map Path.components).Nodup

theorem below_nil (p : Path) : Below p [] := by
  constructor <;> simp

theorem Below.sort_filter {paths : List Path} (h : Below p paths) (keep : Path → Bool) :
    Below p (Path.sort (paths.filter keep)) := by
  have hperm := Path.perm_sort (paths.filter keep)
  have hmem (q : Path) (hq : q ∈ Path.sort (paths.filter keep)) : q ∈ paths :=
    List.mem_of_mem_filter (hperm.mem_iff.1 hq)
  refine ⟨fun q hq => h.starts q (hmem q hq), fun q hq => h.endsInName q (hmem q hq), ?_⟩
  rw [(hperm.map _).nodup_iff]
  exact h.distinct.sublist (List.filter_sublist.map _)

theorem below_singleton (h : EndsInName p) : Below p [p] := by
  constructor <;> simp [h]

/-- Paths that lie below different names of a directory lie below the directory. -/
theorem below_flatMap {ι : Type} {items : List ι} {name : ι → Text} {paths : ι → List Path}
    (hnames : ∀ i ∈ items, Path.IsName (name i)) (hdistinct : (items.map name).Nodup)
    (h : ∀ i ∈ items, Below (p.join (name i)) (paths i)) : Below p (items.flatMap paths) where
  starts q hq := by
    obtain ⟨i, hi, hq⟩ := List.mem_flatMap.1 hq
    have hstarts := (h i hi).starts q hq
    rw [Path.components_join p (hnames i hi)] at hstarts
    exact (List.prefix_append _ _).trans hstarts
  endsInName q hq := by
    obtain ⟨i, hi, hq⟩ := List.mem_flatMap.1 hq
    exact (h i hi).endsInName q hq
  distinct := by
    rw [List.map_flatMap, List.nodup_flatMap]
    refine ⟨fun i hi => (h i hi).distinct, ?_⟩
    refine (List.pairwise_map.1 hdistinct).imp_of_mem fun {i j} hi hj hne x hx hx' => hne ?_
    obtain ⟨q, hq, rfl⟩ := List.mem_map.1 hx
    obtain ⟨r, hr, heq⟩ := List.mem_map.1 hx'
    have hqi := (h i hi).starts q hq
    have hrj := (h j hj).starts r hr
    rw [Path.components_join p (hnames i hi)] at hqi
    rw [heq, Path.components_join p (hnames j hj)] at hrj
    have hsame := List.prefix_of_prefix_length_le hqi hrj (by simp)
    simpa using hsame.eq_of_length (by simp)

/-- The files that a walk finds lie below the directory it starts in. -/
theorem below_walk (tree : FileTree) (inside : List Location) (here : Location) (p : Path) :
    Below p (tree.walk inside here p) := by
  induction inside, here, p using walk.induct tree with
  | case1 inside here p ihDirectory ihLink =>
    rw [walk]
    refine below_flatMap (fun c _ => isName_of_mem_children c.2) ?_ ?_
    · rw [List.attach_map_val]
      exact nodup_children tree here
    rintro ⟨c, hc⟩ -
    have hpath := below_singleton (endsInName_join p (isName_of_mem_children hc))
    dsimp only
    split
    · exact hpath
    · exact ihDirectory c hc
    · split
      · exact below_nil _
      · split
        · exact hpath
        · rename_i hdirectory
          split
          · exact below_nil _
          · rename_i hinside
            exact ihLink c _ hdirectory hinside
        · exact below_nil _

end ApexOutline.FileTree
