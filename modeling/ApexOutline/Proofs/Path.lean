import ApexOutline.Path
import Mathlib.Data.List.Lex
import Mathlib.Data.List.Sort
import Mathlib.Tactic.Common
/-!
# The order of paths

Paths are compared by their keys, and paths with the same key have the same components
(`key_eq_iff`). Sorting and dropping neighbours that are the same path leaves a list that increases
strictly and has every path of the first (`pairwise_dedup_sort`, `exists_mem_dedup_sort`). Such a list is
determined by the components of its paths (`forall₂_of_pairwise`).
-/

namespace ApexOutline.Path

open Text

/-! ## Keys -/

theorem lexLe_iff {α : Type} [LinearOrder α] {le : α → α → Bool}
    (hle : ∀ a b, le a b = true ↔ a ≤ b) (xs ys : List α) : lexLe le xs ys = true ↔ xs ≤ ys := by
  rw [le_iff_lt_or_eq]
  induction xs generalizing ys with
  | nil => cases ys <;> simp [lexLe]
  | cons a xs ih =>
    cases ys with
    | nil => simp [lexLe]
    | cons b ys =>
      simp only [lexLe, Bool.and_eq_true, Bool.or_eq_true, Bool.not_eq_true', ← Bool.not_eq_true, hle,
        ih, not_le, List.cons_lt_cons_iff, List.cons.injEq]
      constructor
      · rintro ⟨hab, hba | hrest⟩
        · exact .inl (.inl hba)
        · rcases hab.lt_or_eq with hlt | rfl
          · exact .inl (.inl hlt)
          · exact hrest.imp (fun h => .inr ⟨rfl, h⟩) fun h => ⟨rfl, h⟩
      · rintro ((hlt | ⟨rfl, hrest⟩) | ⟨rfl, rfl⟩)
        · exact ⟨hlt.le, .inl hlt⟩
        · exact ⟨le_rfl, .inr (.inl hrest)⟩
        · exact ⟨le_rfl, .inr (.inr rfl)⟩

theorem le_iff {p q : Path} : le p q = true ↔ p.key ≤ q.key :=
  lexLe_iff (lexLe_iff fun _ _ => Nat.ble_eq.to_iff) p.key q.key

theorem Component.key_injective : Function.Injective Component.key := by
  have hchars : Function.Injective Char.toNat := fun c d h => Char.ext (UInt32.toNat_inj.1 h)
  intro c d h
  cases c <;> cases d <;> simp_all [Component.key, hchars.list_map.eq_iff]

/-- Two paths have the same key exactly when they have the same components. -/
theorem key_eq_iff {p q : Path} : p.key = q.key ↔ p.components = q.components :=
  (Component.key_injective.list_map).eq_iff

/-! ## Parts -/

theorem parts_append_slash (p q : Path) : parts (p ++ '/' :: q) = p.parts ++ q.parts := by
  unfold parts
  rw [List.splitOnP_append_cons p q (by rfl), List.filter_append]

theorem parts_of_isName {name : Text} (h : IsName name) : parts name = [name] := by
  have hslash : ∀ c ∈ name, (c == '/') = false := by
    intro c hc
    exact beq_false_of_ne fun heq => h.slash_not_mem (heq ▸ hc)
  simp [parts, List.splitOnP_eq_singleton hslash, h.ne_nil]

/-- The characters of a path other than slashes are those of its parts. -/
theorem mem_iff_exists_parts {p : Path} {c : Char} (hc : c ≠ '/') :
    c ∈ p ↔ ∃ part ∈ p.parts, c ∈ part := by
  have hpieces : c ∈ p ↔ ∃ piece ∈ p.splitOnP (· == '/'), c ∈ piece := by
    induction p with
    | nil => simp
    | cons d p ih =>
      rw [List.splitOnP_cons_eq_if_modifyHead]
      obtain ⟨first, rest, hsplit⟩ := List.exists_cons_of_ne_nil (List.splitOnP_ne_nil (· == '/') p)
      rw [hsplit] at ih ⊢
      split
      · rename_i hd
        simp [ih, show c ≠ d from fun h => hc (h.trans (beq_iff_eq.1 hd))]
      · simp [ih, or_assoc]
  rw [hpieces]
  unfold parts
  constructor
  · rintro ⟨piece, hpiece, hmem⟩
    exact ⟨piece, List.mem_filter.2 ⟨hpiece, by simpa using List.ne_nil_of_mem hmem⟩, hmem⟩
  · rintro ⟨part, hpart, hmem⟩
    exact ⟨part, List.mem_of_mem_filter hpart, hmem⟩

/-! ## Entering a directory -/

theorem exists_of_endsInSlash {p : Path} (h : p.endsInSlash = true) : ∃ q, p = q ++ ['/'] := by
  obtain ⟨q, hq⟩ := List.getLast?_eq_some_iff.1 (beq_iff_eq.1 h)
  exact ⟨q, hq⟩

theorem parts_join {name : Text} (p : Path) (h : IsName name) : (p.join name).parts = p.parts ++ [name] := by
  unfold join
  split
  · rename_i hp
    rcases Bool.or_eq_true_iff.1 hp with hp | hp
    · rw [List.isEmpty_iff.1 hp]
      exact parts_of_isName h
    · obtain ⟨q, rfl⟩ := exists_of_endsInSlash hp
      rw [List.append_assoc, List.singleton_append, parts_append_slash, parts_append_slash,
        parts_of_isName h]
      simp [parts]
  · rw [parts_append_slash, parts_of_isName h]

theorem isAbsolute_join {name : Text} (p : Path) (h : IsName name) :
    (p.join name).isAbsolute = p.isAbsolute := by
  cases p with
  | nil =>
    obtain ⟨c, rest, rfl⟩ := List.exists_cons_of_ne_nil h.ne_nil
    have hc : c ≠ '/' := fun heq => h.slash_not_mem (heq ▸ List.mem_cons_self)
    simp [join, isAbsolute, hc]
  | cons c p =>
    unfold join
    split <;> rfl

theorem endsInSlash_join {name : Text} (p : Path) (h : IsName name) : (p.join name).endsInSlash = false := by
  have hlast (front : Path) : (front ++ name).getLast? ≠ some '/' := by
    rw [List.getLast?_append, List.getLast?_eq_some_getLast h.ne_nil, Option.some_or]
    intro hslash
    exact h.slash_not_mem (Option.some.inj hslash ▸ List.getLast_mem h.ne_nil)
  unfold join endsInSlash
  split
  · simpa using hlast p
  · simpa using hlast (p ++ ['/'])

/-- The components of a path inside a directory are those of the directory and the name. -/
theorem components_join {name : Text} (p : Path) (h : IsName name) :
    (p.join name).components = p.components ++ [.name name] := by
  have hpart : [name].filterMap Component.ofPart? = [.name name] := by
    simp [Component.ofPart?, h.ne_current, h.ne_parent]
  have hhead : (p.parts ++ [name]).head? = some ['.'] ↔ p.parts.head? = some ['.'] := by
    cases p.parts with
    | nil => simp [h.ne_current]
    | cons part rest => simp
  unfold components
  simp only [isAbsolute_join p h, parts_join p h, List.filterMap_append, hpart, hhead]
  split
  · rfl
  · split <;> rfl

/-! ## What the components say -/

/-- The part of a path that a component stands for, unless it only opens the path. -/
def Component.part? : Component → Option Text
  | .root | .current => none
  | .parent => some ['.', '.']
  | .name n => some n

theorem part?_ofPart? (part : Text) :
    (Component.ofPart? part).bind Component.part? = if part = ['.'] then none else some part := by
  unfold Component.ofPart?
  split
  · rfl
  · split
    · rename_i h
      rw [h]
      rfl
    · rfl

/-- The components tell all parts but the dots. -/
theorem filterMap_part? (p : Path) :
    p.components.filterMap Component.part? = p.parts.filter (· ≠ ['.']) := by
  have hinner : (p.parts.filterMap Component.ofPart?).filterMap Component.part? =
      p.parts.filter (· ≠ ['.']) := by
    rw [List.filterMap_filterMap, ← List.filterMap_eq_filter]
    congr 1
    funext part
    rw [part?_ofPart?]
    by_cases h : part = ['.'] <;> simp [Option.guard, h]
  unfold components
  dsimp only
  split
  · rwa [List.filterMap_cons_none rfl]
  · split
    · rwa [List.filterMap_cons_none rfl]
    · exact hinner

theorem isAbsolute_iff {p : Path} : p.isAbsolute = true ↔ .root ∈ p.components := by
  have hinner : Component.root ∉ p.parts.filterMap Component.ofPart? := by
    intro hroot
    obtain ⟨part, -, hpart⟩ := List.mem_filterMap.1 hroot
    unfold Component.ofPart? at hpart
    split at hpart
    · cases hpart
    · split at hpart <;> cases hpart
  unfold components
  dsimp only
  split
  · rename_i h
    simp [h]
  · rename_i h
    split <;> simp [h, hinner]

theorem eq_nil_iff {p : Path} : p = [] ↔ p.components = [] := by
  constructor
  · rintro rfl
    rfl
  · intro h
    by_contra hne
    obtain ⟨c, rest, rfl⟩ := List.exists_cons_of_ne_nil hne
    have hrelative : ¬ isAbsolute (c :: rest) = true := by
      rw [isAbsolute_iff, h]
      exact List.not_mem_nil
    have hc : c ≠ '/' := fun heq => hrelative (by simp [isAbsolute, heq])
    obtain ⟨part, hpart, -⟩ := (mem_iff_exists_parts hc).1 (List.mem_cons_self (l := rest))
    have hdots : (parts (c :: rest)).filter (· ≠ ['.']) = [] := by
      rw [← filterMap_part?, h, List.filterMap_nil]
    obtain ⟨first, others, hparts⟩ := List.exists_cons_of_ne_nil (List.ne_nil_of_mem hpart)
    have hfirst : first = ['.'] := by
      simpa using List.filter_eq_nil_iff.1 hdots first (by simp [hparts])
    simp [components, hrelative, hparts, hfirst] at h

/-! ## Sorting -/

theorem perm_sort (paths : List Path) : (sort paths).Perm paths :=
  List.mergeSort_perm paths le

theorem pairwise_sort (paths : List Path) : (sort paths).Pairwise fun p q => p.key ≤ q.key := by
  have htrans (p q r : Path) (hpq : le p q = true) (hqr : le q r = true) : le p r = true :=
    le_iff.2 ((le_iff.1 hpq).trans (le_iff.1 hqr))
  have htotal (p q : Path) : (le p q || le q p) = true := by
    rw [Bool.or_eq_true, le_iff, le_iff]
    exact le_total p.key q.key
  exact (List.pairwise_mergeSort htrans htotal paths).imp le_iff.1

theorem sublist_dedup (paths : List Path) : (dedup paths).Sublist paths := by
  fun_induction dedup paths with
  | case1 => exact .slnil
  | case2 p => exact .refl _
  | case3 p q rest _ ih => exact ih.trans ((List.sublist_cons_self q rest).cons_cons p)
  | case4 p q rest _ ih => exact ih.cons_cons p

theorem exists_mem_dedup (paths : List Path) : ∀ p ∈ paths, ∃ q ∈ dedup paths, q.key = p.key := by
  fun_induction dedup paths with
  | case1 => simp
  | case2 p => simp
  | case3 p q rest hkey ih =>
    intro r hr
    rcases List.mem_cons.1 hr with rfl | hr
    · exact ih r List.mem_cons_self
    rcases List.mem_cons.1 hr with rfl | hr
    · rw [← hkey]
      exact ih p List.mem_cons_self
    · exact ih r (List.mem_cons_of_mem p hr)
  | case4 p q rest _ ih =>
    intro r hr
    rcases List.mem_cons.1 hr with rfl | hr
    · exact ⟨r, List.mem_cons_self, rfl⟩
    · obtain ⟨r', hmem, hr'⟩ := ih r hr
      exact ⟨r', List.mem_cons_of_mem p hmem, hr'⟩

theorem pairwise_dedup {paths : List Path} (h : paths.Pairwise fun p q => p.key ≤ q.key) :
    (dedup paths).Pairwise fun p q => p.key < q.key := by
  fun_induction dedup paths with
  | case1 => exact .nil
  | case2 p => exact List.pairwise_singleton _ _
  | case3 p q rest _ ih => exact ih (h.sublist ((List.sublist_cons_self q rest).cons_cons p))
  | case4 p q rest hne ih =>
    obtain ⟨hfirst, hrest⟩ := List.pairwise_cons.1 h
    refine List.pairwise_cons.2 ⟨fun r hr => ?_, ih hrest⟩
    have hpq : p.key < q.key := lt_of_le_of_ne (hfirst q List.mem_cons_self) hne
    rcases List.mem_cons.1 ((sublist_dedup _).subset hr) with rfl | hr
    · exact hpq
    · exact hpq.trans_le ((List.pairwise_cons.1 hrest).1 r hr)

theorem dedup_eq_self {paths : List Path} (h : paths.Pairwise fun p q => p.key < q.key) :
    dedup paths = paths := by
  fun_induction dedup paths with
  | case1 => rfl
  | case2 p => rfl
  | case3 p q rest hkey ih => exact absurd hkey ((List.pairwise_cons.1 h).1 q List.mem_cons_self).ne
  | case4 p q rest hne ih => rw [ih (List.pairwise_cons.1 h).2]

theorem pairwise_dedup_sort (paths : List Path) :
    (dedup (sort paths)).Pairwise fun p q => p.key < q.key :=
  pairwise_dedup (pairwise_sort paths)

theorem mem_of_mem_dedup_sort {paths : List Path} {p : Path} (h : p ∈ dedup (sort paths)) : p ∈ paths :=
  (perm_sort paths).mem_iff.1 ((sublist_dedup _).subset h)

theorem exists_mem_dedup_sort {paths : List Path} {p : Path} (h : p ∈ paths) :
    ∃ q ∈ dedup (sort paths), q.components = p.components := by
  obtain ⟨q, hq, hkey⟩ := exists_mem_dedup _ p ((perm_sort paths).mem_iff.2 h)
  exact ⟨q, hq, key_eq_iff.1 hkey⟩

theorem dedup_sort_eq_self {paths : List Path} (h : paths.Pairwise fun p q => p.key < q.key) :
    dedup (sort paths) = paths := by
  have hsort : sort paths = paths := List.mergeSort_of_pairwise (h.imp fun hlt => le_iff.2 hlt.le)
  rw [hsort, dedup_eq_self h]

/-- Two lists that increase strictly and have the same paths agree place by place. -/
theorem forall₂_of_pairwise {ps qs : List Path} (hps : ps.Pairwise fun p q => p.key < q.key)
    (hqs : qs.Pairwise fun p q => p.key < q.key)
    (h : ∀ cs, (∃ p ∈ ps, p.components = cs) ↔ ∃ q ∈ qs, q.components = cs) :
    List.Forall₂ (fun p q => p.components = q.components) ps qs := by
  have hmem (k : List (List Nat)) : k ∈ ps.map key ↔ k ∈ qs.map key := by
    have hsubset {ps qs : List Path} (h : ∀ p ∈ ps, ∃ q ∈ qs, q.components = p.components)
        (hk : k ∈ ps.map key) : k ∈ qs.map key := by
      obtain ⟨p, hp, rfl⟩ := List.mem_map.1 hk
      obtain ⟨q, hq, heq⟩ := h p hp
      exact List.mem_map.2 ⟨q, hq, key_eq_iff.2 heq⟩
    exact ⟨hsubset fun p hp => (h _).1 ⟨p, hp, rfl⟩, hsubset fun q hq => (h _).2 ⟨q, hq, rfl⟩⟩
  have hkeys : ps.map key = qs.map key :=
    List.Pairwise.eq_of_mem_iff (List.pairwise_map.2 hps) (List.pairwise_map.2 hqs) hmem
  rw [← List.forall₂_eq_eq_eq, List.forall₂_map_left_iff, List.forall₂_map_right_iff] at hkeys
  exact hkeys.imp fun _ _ => key_eq_iff.1

end ApexOutline.Path
