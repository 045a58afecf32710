import ApexOutline.Text.Blank
import ApexOutline.Text.Word
import Mathlib.Data.List.DropRight
import Mathlib.Data.List.TakeWhile
/-!
# Blanks, trimming and words

Trimming takes blanks off the ends of a text and nothing else (`exists_trim`), so it neither adds
nor removes a word (`words_trim`) nor changes how often another character occurs (`count_trim`).
Words come apart at every blank (`words_append_blank`).
-/

namespace ApexOutline.Text

/-- What holds along the table of blanks holds of every blank. -/
theorem forall_isBlank {P : Char → Prop}
    (htable : ∀ r ∈ blanks, ∀ n ∈ List.range' r.1 (r.2 + 1 - r.1), P (Char.ofNat n)) {c : Char}
    (h : isBlank c) : P c := by
  obtain ⟨r, hr, hc⟩ := List.any_eq_true.1 h
  simp only [Bool.and_eq_true, decide_eq_true_eq] at hc
  have hchar := htable r hr c.toNat (List.mem_range'_1.2 (by omega))
  rwa [Char.ofNat_toNat] at hchar

/-- No blank is a word character. -/
theorem isWord_of_isBlank {c : Char} (h : isBlank c) : isWord c = false :=
  forall_isBlank (P := (isWord · = false)) (by decide +kernel) h

/-- A character of a class without blanks is not blank. -/
theorem isBlank_eq_false {p : Char → Bool} (hp : ∀ {c}, isBlank c → p c = false) {c : Char}
    (h : p c = true) : isBlank c = false := by
  cases hblank : isBlank c with
  | false => rfl
  | true =>
    rw [hp hblank] at h
    cases h

theorem isBlank_of_isWord {c : Char} (h : isWord c = true) : isBlank c = false :=
  isBlank_eq_false isWord_of_isBlank h

/-- What ends a run is not part of it. -/
theorem head_dropWhile (p : Char → Bool) (t : Text) : ∀ c ∈ (t.dropWhile p).head?, p c = false := by
  intro c hc
  have hstop := List.head?_dropWhile_not p t
  rw [Option.mem_def.1 hc] at hstop
  simpa using hstop

/-- A run does not reach into a text whose first character ends it. -/
theorem dropWhile_append_of_stop {p : Char → Bool} {u : Text} (hu : ∀ c ∈ u.head?, p c = false)
    (t : Text) : (t ++ u).dropWhile p = t.dropWhile p ++ u := by
  have hself : u.dropWhile p = u := by
    cases u with
    | nil => rfl
    | cons c u => exact List.dropWhile_cons_of_neg (by simp [hu c rfl])
  rw [List.dropWhile_append, hself]
  split
  · rename_i h
    rw [List.isEmpty_iff.1 h, List.nil_append]
  · rfl

theorem takeWhile_append_of_stop {p : Char → Bool} {u : Text} (hu : ∀ c ∈ u.head?, p c = false)
    (t : Text) : (t ++ u).takeWhile p = t.takeWhile p := by
  have hnil : u.takeWhile p = [] := by
    cases u with
    | nil => rfl
    | cons c u => exact List.takeWhile_cons_of_neg (by simp [hu c rfl])
  rw [List.takeWhile_append, hnil, List.append_nil]
  split
  · rename_i h
    exact ((List.takeWhile_prefix p).eq_of_length h).symm
  · rfl

/-- A text comes apart in one way into a run and what ends it. -/
theorem append_inj_of_stop {p : Char → Bool} {s s' u u' : Text} (hs : ∀ c ∈ s, p c) (hs' : ∀ c ∈ s', p c)
    (hu : ∀ c ∈ u.head?, p c = false) (hu' : ∀ c ∈ u'.head?, p c = false) (h : s ++ u = s' ++ u') :
    s = s' ∧ u = u' := by
  have hrun : s = s' := by
    have htake := congrArg (List.takeWhile p) h
    rwa [takeWhile_append_of_stop hu, takeWhile_append_of_stop hu', List.takeWhile_eq_self_iff.2 hs,
      List.takeWhile_eq_self_iff.2 hs'] at htake
  subst hrun
  exact ⟨rfl, List.append_cancel_left h⟩

/-! ## Trimming -/

theorem trimStart_eq_nil_iff {t : Text} : trimStart t = [] ↔ ∀ c ∈ t, isBlank c :=
  List.dropWhile_eq_nil_iff

/-- Dropping the blanks that open a text leaves what no blank opens. -/
theorem trimStart_eq_iff {t rest : Text} :
    trimStart t = rest ↔
      ∃ gap, t = gap ++ rest ∧ (∀ c ∈ gap, isBlank c) ∧ ∀ c ∈ rest.head?, isBlank c = false := by
  constructor
  · rintro rfl
    refine ⟨t.takeWhile isBlank, List.takeWhile_append_dropWhile.symm, ?_, head_dropWhile isBlank t⟩
    intro c hc
    exact List.mem_takeWhile_imp hc
  · rintro ⟨gap, rfl, hgap, hrest⟩
    unfold trimStart
    rw [dropWhile_append_of_stop hrest, List.dropWhile_eq_nil_iff.2 hgap, List.nil_append]

theorem trimStart_append_of_eq_nil {s : Text} (h : trimStart s = []) (t : Text) :
    trimStart (s ++ t) = trimStart t :=
  List.dropWhile_append_of_pos (trimStart_eq_nil_iff.1 h)

theorem trimStart_append_of_ne_nil {s : Text} (h : trimStart s ≠ []) (t : Text) :
    trimStart (s ++ t) = trimStart s ++ t := by
  have hs : (s.dropWhile isBlank).isEmpty = false := List.isEmpty_eq_false_iff.2 h
  simp only [trimStart, List.dropWhile_append, hs, Bool.false_eq_true, if_false]

theorem trimStart_trimStart (t : Text) : trimStart (trimStart t) = trimStart t :=
  List.dropWhile_idempotent isBlank t

theorem trimStart_trimStart_append (s t : Text) :
    trimStart (trimStart s ++ t) = trimStart (s ++ t) := by
  by_cases h : trimStart s = []
  · rw [trimStart_append_of_eq_nil h, h, List.nil_append]
  · rw [trimStart_append_of_ne_nil h, trimStart_append_of_ne_nil (by rwa [trimStart_trimStart]),
      trimStart_trimStart]

theorem trim_eq (t : Text) : trim t = trimEnd (trimStart t) := rfl

theorem trim_eq_nil_iff {t : Text} : trim t = [] ↔ trimStart t = [] := by
  constructor
  · intro h
    have hall : ∀ c ∈ trimStart t, isBlank c := List.rdropWhile_eq_nil_iff.1 h
    rw [← trimStart_trimStart]
    exact trimStart_eq_nil_iff.2 hall
  · intro h
    rw [trim_eq, h]
    rfl

/-- A text is its trimmed form with blanks around it. -/
theorem exists_trim (t : Text) :
    ∃ before after, t = before ++ trim t ++ after ∧ (∀ c ∈ before, isBlank c) ∧
      ∀ c ∈ after, isBlank c := by
  refine ⟨t.takeWhile isBlank, (trimStart t).rtakeWhile isBlank, ?_, ?_, ?_⟩
  · have hend : trim t ++ (trimStart t).rtakeWhile isBlank = trimStart t :=
      List.rdropWhile_append_rtakeWhile
    rw [List.append_assoc, hend]
    exact List.takeWhile_append_dropWhile.symm
  · exact fun c hc => List.mem_takeWhile_imp hc
  · exact fun c hc => List.mem_rtakeWhile_imp hc

theorem count_trim {b : Char} (hb : isBlank b = false) (t : Text) : (trim t).count b = t.count b := by
  obtain ⟨before, after, ht, hbefore, hafter⟩ := exists_trim t
  have hzero : ∀ u : Text, (∀ c ∈ u, isBlank c) → u.count b = 0 := by
    intro u hu
    rw [List.count_eq_zero]
    intro hmem
    have := hu b hmem
    rw [hb] at this
    cases this
  conv_rhs => rw [ht]
  rw [List.count_append, List.count_append, hzero _ hbefore, hzero _ hafter, Nat.zero_add, Nat.add_zero]

theorem trimStart_append_cons {c : Char} (hc : isBlank c = false) (s t : Text) :
    trimStart (s ++ c :: t) = trimStart s ++ c :: t :=
  dropWhile_append_of_stop (by rintro d ⟨⟩; exact hc) s

theorem trimEnd_append_cons {c : Char} (hc : isBlank c = false) (s t : Text) :
    trimEnd (s ++ c :: t) = s ++ c :: trimEnd t := by
  unfold trimEnd dropWhileEnd
  rw [List.reverse_append, List.reverse_cons, List.append_assoc, List.singleton_append,
    dropWhile_append_of_stop (by rintro d ⟨⟩; exact hc)]
  simp

/-- Trimming stops at a character that is not blank from both sides. -/
theorem trim_append_cons {c : Char} (hc : isBlank c = false) (s t : Text) :
    trim (s ++ c :: t) = trimStart s ++ c :: trimEnd t := by
  rw [trim_eq, trimStart_append_cons hc, trimEnd_append_cons hc]

theorem exists_trimEnd (t : Text) : ∃ after, t = trimEnd t ++ after ∧ ∀ c ∈ after, isBlank c :=
  ⟨t.rtakeWhile isBlank, List.rdropWhile_append_rtakeWhile.symm, fun _ hc => List.mem_rtakeWhile_imp hc⟩

theorem trimEnd_append_blanks (s : Text) {t : Text} (ht : ∀ c ∈ t, isBlank c) :
    trimEnd (s ++ t) = trimEnd s := by
  unfold trimEnd dropWhileEnd
  rw [List.reverse_append, List.dropWhile_append_of_pos fun c hc => ht c (List.mem_reverse.1 hc)]

theorem trim_append_blanks (s : Text) {t : Text} (ht : ∀ c ∈ t, isBlank c) :
    trim (s ++ t) = trim s := by
  by_cases hs : trimStart s = []
  · rw [trim_eq_nil_iff.2 hs, trim_eq_nil_iff, trimStart_append_of_eq_nil hs, trimStart_eq_nil_iff]
    exact ht
  · rw [trim_eq, trim_eq, trimStart_append_of_ne_nil hs, trimEnd_append_blanks _ ht]

theorem trimEnd_trimEnd (t : Text) : trimEnd (trimEnd t) = trimEnd t := by
  obtain ⟨after, ht, hafter⟩ := exists_trimEnd t
  conv_rhs => rw [ht, trimEnd_append_blanks _ hafter]

theorem trimEnd_trim (t : Text) : trimEnd (trim t) = trim t :=
  trimEnd_trimEnd (trimStart t)

theorem head_trim (t : Text) : ∀ c ∈ (trim t).head?, isBlank c = false := by
  intro c hc
  obtain ⟨after, hafter, -⟩ := exists_trimEnd (trimStart t)
  apply head_dropWhile isBlank t
  rw [show t.dropWhile isBlank = trim t ++ after from hafter, List.head?_append, Option.mem_def.1 hc]
  rfl

theorem mem_trim_iff {b : Char} (hb : isBlank b = false) {t : Text} : b ∈ trim t ↔ b ∈ t := by
  rw [← List.count_pos_iff, ← List.count_pos_iff, count_trim hb]

/-! ## Words -/

theorem words_eq (t : Text) : words t = (t.splitOnP isBlank).filter (!·.isEmpty) := by
  simp only [words, runs, Bool.not_not]

/-- Words come apart at a blank. -/
theorem words_append_blank {b : Char} (hb : isBlank b) (s t : Text) :
    words (s ++ b :: t) = words s ++ words t := by
  rw [words_eq, List.splitOnP_append_cons s t hb, List.filter_append, ← words_eq, ← words_eq]

theorem words_nil : words [] = [] := by
  simp [words_eq]

theorem words_cons_blank {b : Char} (hb : isBlank b) (t : Text) : words (b :: t) = words t := by
  simpa [words_nil] using words_append_blank hb [] t

theorem words_blanks_append {s : Text} (hs : ∀ c ∈ s, isBlank c) (t : Text) :
    words (s ++ t) = words t := by
  induction s with
  | nil => rfl
  | cons b s ih =>
    rw [List.cons_append, words_cons_blank (hs b List.mem_cons_self)]
    exact ih fun c hc => hs c (List.mem_cons_of_mem _ hc)

theorem words_append_blanks (s : Text) {t : Text} (ht : ∀ c ∈ t, isBlank c) :
    words (s ++ t) = words s := by
  cases t with
  | nil => rw [List.append_nil]
  | cons b t =>
    have htail := words_blanks_append (fun c hc => ht c (List.mem_cons_of_mem _ hc)) []
    rw [words_append_blank (ht b List.mem_cons_self)]
    rw [List.append_nil, words_nil] at htail
    rw [htail, List.append_nil]

theorem words_trim (t : Text) : words (trim t) = words t := by
  obtain ⟨before, after, ht, hbefore, hafter⟩ := exists_trim t
  conv_rhs => rw [ht, words_append_blanks _ hafter, words_blanks_append hbefore]

theorem words_trimStart (t : Text) : words (trimStart t) = words t := by
  conv_rhs => rw [← List.takeWhile_append_dropWhile (p := isBlank) (l := t)]
  exact (words_blanks_append (fun c hc => List.mem_takeWhile_imp hc) _).symm

/-- Two texts that differ only in the blanks before them have the same words. -/
theorem words_congr {s t : Text} (h : trimStart s = trimStart t) : words s = words t := by
  rw [← words_trimStart s, h, words_trimStart]

/-- A text without blanks in front of a blank, or of nothing, is a word. -/
theorem words_run {c : Char} {w t : Text} (hw : ∀ d ∈ c :: w, isBlank d = false)
    (ht : ∀ b ∈ t.head?, isBlank b) : words (c :: w ++ t) = (c :: w) :: words t := by
  have hone : words (c :: w) = [c :: w] := by
    rw [words_eq, List.splitOnP_eq_singleton hw]
    rfl
  cases t with
  | nil => rw [List.append_nil, hone, words_nil]
  | cons b t =>
    have hb : isBlank b := ht b rfl
    rw [words_append_blank hb, hone, words_cons_blank hb, List.singleton_append]

/-- Blanks that keep two words apart. -/
def IsGap (t : Text) : Prop :=
  t ≠ [] ∧ ∀ c ∈ t, isBlank c

instance (t : Text) : Decidable (IsGap t) :=
  decidable_of_iff (t ≠ [] ∧ t.all isBlank = true) (by simp [IsGap])

theorem IsGap.head {g : Text} (h : IsGap g) (t : Text) : ∀ c ∈ (g ++ t).head?, isBlank c := by
  obtain ⟨b, g, rfl⟩ := List.exists_cons_of_ne_nil h.1
  rintro c ⟨⟩
  exact h.2 b List.mem_cons_self

/-- A text without blanks and a gap behind it are the first word and what separates it from the rest. -/
theorem words_append_gap {w g : Text} (hne : w ≠ []) (hw : ∀ c ∈ w, isBlank c = false) (hg : IsGap g)
    (t : Text) : words (w ++ (g ++ t)) = w :: words t := by
  obtain ⟨c, w, rfl⟩ := List.exists_cons_of_ne_nil hne
  rw [words_run hw (hg.head t), words_blanks_append hg.2]

/-- The first word, the gap behind it and what follows are told by the text. -/
theorem append_gap_inj {w w' g g' t t' : Text} (hw : ∀ c ∈ w, isBlank c = false)
    (hw' : ∀ c ∈ w', isBlank c = false) (hg : IsGap g) (hg' : IsGap g')
    (ht : ∀ c ∈ t.head?, isBlank c = false) (ht' : ∀ c ∈ t'.head?, isBlank c = false)
    (h : w ++ (g ++ t) = w' ++ (g' ++ t')) : w = w' ∧ g = g' ∧ t = t' := by
  obtain ⟨rfl, htail⟩ := append_inj_of_stop (p := (!isBlank ·)) (by simpa using hw) (by simpa using hw')
    (by simpa using hg.head t) (by simpa using hg'.head t') h
  exact ⟨rfl, append_inj_of_stop hg.2 hg'.2 ht ht' htail⟩

/-- The first word of a text that starts with one reaches up to the first blank. -/
theorem words_cons {c : Char} (hc : isBlank c = false) (t : Text) :
    words (c :: t) = (c :: t.takeWhile (!isBlank ·)) :: words (t.dropWhile (!isBlank ·)) := by
  have hsplit : c :: t = c :: t.takeWhile (!isBlank ·) ++ t.dropWhile (!isBlank ·) := by
    rw [List.cons_append, List.takeWhile_append_dropWhile]
  conv_lhs => rw [hsplit]
  refine words_run (fun d hd => ?_) (fun b hb => ?_)
  · rcases List.mem_cons.1 hd with rfl | hd
    · exact hc
    · simpa using List.mem_takeWhile_imp hd
  · simpa using head_dropWhile (!isBlank ·) t b hb

end ApexOutline.Text
