import ApexOutline.Proofs.Text.AsciiCase
import ApexOutline.Proofs.Text.Words
/-!
# Lowercase texts

Some characters neither have a lowercase nor are the lowercase of another character
(`IsCaseless`): a lowercase text holds them exactly where the text does (`mem_lower_iff`). Blanks and most
symbols are moreover looked at when the sigma before them is judged, and not passed over
(`IsBarrier`), so a text comes apart at such a character before it is lowercased as well as after
(`lower_append_barrier`, `lower_eq_append_cons`). An apostrophe is passed over; what stands around it can
only change the form of a sigma, which no keyword contains (`hasWord_lower`).
-/

namespace ApexOutline.Text

/-! ## Characters without case -/

/-- The character is its own lowercase and that of no other character. -/
def IsCaseless (c : Char) : Prop :=
  lowerChar c = [c] ∧ c.isAlpha = false ∧ c ≠ '\u0307' ∧ c ≠ 'ς' ∧
    ∀ r ∈ caseRuns, c.toNat < r.lower ∨ r.lower + (r.last - r.first) < c.toNat

/-- The character is looked at when a sigma before it is judged, and has no case. -/
def IsBarrier (c : Char) : Prop :=
  IsCaseless c ∧ caseIgnorableRanges.covers c = false ∧ casedRanges.covers c = false

instance (c : Char) : Decidable (IsCaseless c) :=
  inferInstanceAs (Decidable (_ ∧ _ ∧ _ ∧ _ ∧ _))

instance (c : Char) : Decidable (IsBarrier c) :=
  inferInstanceAs (Decidable (_ ∧ _ ∧ _))

theorem isBarrier_of_isBlank {c : Char} (h : isBlank c) : IsBarrier c :=
  forall_isBlank (by decide +kernel) h

/-- The lowercase forms that the runs list are characters. -/
theorem toNat_ofNat_caseRun {r : CaseRun} (hr : r ∈ caseRuns) {n : Nat} (hn : n ≤ r.last - r.first) :
    (Char.ofNat (r.lower + n)).toNat = r.lower + n := by
  have htable : ∀ r ∈ caseRuns, r.lower + (r.last - r.first) < 0xd800 ∨
      0xdfff < r.lower ∧ r.lower + (r.last - r.first) < 0x110000 := by
    decide +kernel
  have hvalid : (r.lower + n).isValidChar := by
    rcases htable r hr with h | h
    · exact .inl (by omega)
    · exact .inr (by omega)
  unfold Char.ofNat
  rw [dif_pos hvalid]
  rfl

theorem eq_of_mem_lowerChar {b c : Char} (hb : IsCaseless b) (h : b ∈ lowerChar c) : c = b := by
  obtain ⟨-, halpha, hdot, -, hruns⟩ := hb
  unfold lowerChar at h
  split at h
  · exact (toLower_eq_iff halpha).1 (List.mem_singleton.1 h).symm
  split at h
  · rcases List.mem_pair.1 h with rfl | rfl
    · cases halpha
    · exact absurd rfl hdot
  split at h
  · rename_i r hfind
    have hr := List.mem_of_find?_eq_some hfind
    have hmaps := List.find?_some hfind
    simp only [CaseRun.maps, Bool.and_eq_true, decide_eq_true_eq] at hmaps
    have hle : c.toNat - r.first ≤ r.last - r.first := by omega
    have hnat := toNat_ofNat_caseRun hr hle
    rw [← List.mem_singleton.1 h] at hnat
    have hout := hruns r hr
    omega
  · exact (List.mem_singleton.1 h).symm

theorem lowerChar_ne_nil (c : Char) : lowerChar c ≠ [] := by
  unfold lowerChar
  split
  · exact List.cons_ne_nil _ _
  split
  · exact List.cons_ne_nil _ _
  split <;> exact List.cons_ne_nil _ _

/-! ## Between other characters -/

variable {b : Char}

theorem eq_of_mem_lowerBetween {before after : Text} {c : Char} (hb : IsCaseless b)
    (h : b ∈ lowerBetween before c after) : c = b := by
  unfold lowerBetween at h
  split at h
  · exact absurd (List.mem_singleton.1 h) hb.2.2.2.1
  · exact eq_of_mem_lowerChar hb h

theorem lowerBetween_of_isCaseless (hb : IsCaseless b) (before after : Text) :
    lowerBetween before b after = [b] := by
  have hsigma : (b == 'Σ') = false := by
    rw [beq_eq_false_iff_ne]
    rintro rfl
    exact absurd hb.1 (by decide)
  unfold lowerBetween
  rw [hsigma]
  exact hb.1

theorem lowerBetween_ne_nil (before : Text) (c : Char) (after : Text) : lowerBetween before c after ≠ [] := by
  unfold lowerBetween
  split
  · exact List.cons_ne_nil _ _
  · exact lowerChar_ne_nil c

theorem meetsCased_append_barrier (hb : IsBarrier b) (s t : Text) :
    meetsCased (s ++ b :: t) = meetsCased s := by
  unfold meetsCased
  rw [dropWhile_append_of_stop (by rintro c ⟨⟩; exact hb.2.1)]
  cases s.dropWhile caseIgnorableRanges.covers with
  | nil => exact hb.2.2
  | cons c r => rfl

theorem lowerAfter_append_barrier (hb : IsBarrier b) (before s t : Text) :
    lowerAfter before (s ++ b :: t) =
      lowerAfter before s ++ b :: lowerAfter (b :: (s.reverse ++ before)) t := by
  induction s generalizing before with
  | nil =>
    simp only [List.nil_append, lowerAfter, lowerBetween_of_isCaseless hb.1, List.singleton_append]
    rfl
  | cons c s ih =>
    have hc : lowerBetween before c (s ++ b :: t) = lowerBetween before c s := by
      unfold lowerBetween
      rw [meetsCased_append_barrier hb]
    simp only [List.cons_append, lowerAfter, hc, ih, List.append_assoc, List.reverse_cons,
      List.nil_append]

theorem lowerAfter_barrier_append (hb : IsBarrier b) (before before' t : Text) :
    lowerAfter (before ++ b :: before') t = lowerAfter before t := by
  induction t generalizing before with
  | nil => rfl
  | cons c t ih =>
    have hc : lowerBetween (before ++ b :: before') c t = lowerBetween before c t := by
      unfold lowerBetween
      rw [meetsCased_append_barrier hb]
    have hrest := ih (c :: before)
    rw [List.cons_append] at hrest
    simp only [lowerAfter, hc, hrest]

/-! ## Texts -/

/-- A text comes apart at a barrier. -/
theorem lower_append_barrier (hb : IsBarrier b) (s t : Text) :
    lower (s ++ b :: t) = lower s ++ b :: lower t := by
  unfold lower
  rw [lowerAfter_append_barrier hb, ← List.nil_append (b :: (s.reverse ++ [])),
    lowerAfter_barrier_append hb]

theorem lower_cons_barrier (hb : IsBarrier b) (t : Text) : lower (b :: t) = b :: lower t :=
  lower_append_barrier hb [] t

theorem mem_lowerAfter_iff (hb : IsCaseless b) (before t : Text) : b ∈ lowerAfter before t ↔ b ∈ t := by
  induction t generalizing before with
  | nil => exact Iff.rfl
  | cons c t ih =>
    have hc : b ∈ lowerBetween before c t ↔ b = c := by
      constructor
      · exact fun h => (eq_of_mem_lowerBetween hb h).symm
      · rintro rfl
        rw [lowerBetween_of_isCaseless hb]
        exact List.mem_singleton_self b
    rw [lowerAfter, List.mem_append, hc, ih, List.mem_cons]

/-- A lowercase text holds a character without case exactly when the text does. -/
theorem mem_lower_iff (hb : IsCaseless b) {t : Text} : b ∈ lower t ↔ b ∈ t :=
  mem_lowerAfter_iff hb [] t

theorem lowerAfter_eq_append_cons (hb : IsBarrier b) {before t k r : Text}
    (h : lowerAfter before t = k ++ b :: r) :
    ∃ p q, t = p ++ b :: q ∧ lowerAfter before p = k := by
  induction t generalizing before k with
  | nil => cases k <;> cases h
  | cons c t ih =>
    have hlater {m : Text} (h' : lowerAfter (c :: before) t = m ++ b :: r) :
        ∃ p q, c :: t = p ++ b :: q ∧ lowerAfter before p = lowerBetween before c t ++ m := by
      obtain ⟨p, q, rfl, hp⟩ := ih h'
      refine ⟨c :: p, q, rfl, ?_⟩
      rw [lowerAfter, hp]
      unfold lowerBetween
      rw [meetsCased_append_barrier hb]
    rw [lowerAfter] at h
    rcases List.append_eq_append_iff.1 h with ⟨k', rfl, hrest⟩ | ⟨r', himage, hrest⟩
    · exact hlater hrest
    · cases r' with
      | nil =>
        obtain ⟨p, q, ht, hp⟩ := hlater (m := []) hrest.symm
        exact ⟨p, q, ht, by rw [hp, himage, List.append_nil, List.append_nil]⟩
      | cons d r' =>
        obtain ⟨rfl, -⟩ := List.cons.inj hrest
        have hc : c = b := eq_of_mem_lowerBetween hb.1 (by rw [himage]; simp)
        subst hc
        rw [lowerBetween_of_isCaseless hb.1] at himage
        cases k with
        | nil => exact ⟨[], t, rfl, rfl⟩
        | cons e k => cases k <;> cases himage

/-- A lowercase text that comes apart at a barrier is that of a text that comes apart there. -/
theorem lower_eq_append_cons (hb : IsBarrier b) {t k r : Text} (h : lower t = k ++ b :: r) :
    ∃ p q, t = p ++ b :: q ∧ lower p = k ∧ lower q = r := by
  obtain ⟨p, q, rfl, hp⟩ := lowerAfter_eq_append_cons hb h
  change lower p = k at hp
  rw [lower_append_barrier hb, hp] at h
  exact ⟨p, q, rfl, hp, (List.cons.inj (List.append_cancel_left h)).2⟩

theorem prefix_lower_iff (hb : IsBarrier b) {p t : Text} :
    p ++ [b] <+: lower t ↔ ∃ s r, t = s ++ b :: r ∧ lower s = p := by
  constructor
  · rintro ⟨u, hu⟩
    obtain ⟨s, r, ht, hs, -⟩ := lower_eq_append_cons hb (k := p) (r := u) (by rw [← hu]; simp)
    exact ⟨s, r, ht, hs⟩
  · rintro ⟨s, r, rfl, rfl⟩
    rw [lower_append_barrier hb]
    exact ⟨lower r, by simp⟩

theorem lowerAfter_append (before s t : Text) :
    ∃ u, lowerAfter before (s ++ t) = u ++ lowerAfter (s.reverse ++ before) t := by
  induction s generalizing before with
  | nil => exact ⟨[], rfl⟩
  | cons c s ih =>
    obtain ⟨u, hu⟩ := ih (c :: before)
    refine ⟨lowerBetween before c (s ++ t) ++ u, ?_⟩
    rw [List.cons_append, lowerAfter, hu, List.append_assoc, List.reverse_cons, List.append_assoc]
    rfl

theorem lowerAfter_caseless_append {cut : Text} (hcut : ∀ c ∈ cut, IsCaseless c) (before t : Text) :
    lowerAfter before (cut ++ t) = cut ++ lowerAfter (cut.reverse ++ before) t := by
  induction cut generalizing before with
  | nil => rfl
  | cons c cut ih =>
    obtain ⟨hc, hcut⟩ := List.forall_mem_cons.1 hcut
    rw [List.cons_append, lowerAfter, lowerBetween_of_isCaseless hc, ih hcut, List.reverse_cons,
      List.append_assoc]
    rfl

/-- Characters without case that stand together stay together. -/
theorem infix_lower {cut t : Text} (hcut : ∀ c ∈ cut, IsCaseless c) (h : cut <:+: t) :
    cut <:+: lower t := by
  obtain ⟨s, r, rfl⟩ := h
  obtain ⟨u, hu⟩ := lowerAfter_append [] s (cut ++ r)
  rw [List.append_assoc, lower, hu, lowerAfter_caseless_append hcut, ← List.append_assoc]
  exact List.infix_append u cut _

/-- A character at which a text comes apart stands after a cut or before it. -/
theorem append_cut_eq_append_cons {cut s t u r : Text} (hbcut : b ∉ cut) (hne : cut ≠ [])
    (h : s ++ (cut ++ t) = u ++ b :: r) :
    (∃ w, u = s ++ (cut ++ w) ∧ t = w ++ b :: r) ∨ ∃ v, s = u ++ b :: v ∧ r = v ++ (cut ++ t) := by
  rcases List.append_eq_append_iff.1 h with ⟨m, rfl, hm⟩ | ⟨m, rfl, hm⟩
  · left
    rcases List.append_eq_append_iff.1 hm with ⟨m', rfl, rfl⟩ | ⟨m', rfl, hm'⟩
    · exact ⟨m', rfl, rfl⟩
    · cases m' with
      | nil => exact ⟨[], by simp, hm'.symm⟩
      | cons d m' =>
        obtain ⟨rfl, -⟩ := List.cons.inj hm'
        exact absurd (List.mem_append_right m List.mem_cons_self) hbcut
  · right
    cases m with
    | nil =>
      obtain ⟨d, cut', rfl⟩ := List.exists_cons_of_ne_nil hne
      obtain ⟨rfl, -⟩ := List.cons.inj hm
      exact absurd List.mem_cons_self hbcut
    | cons d m =>
      obtain ⟨rfl, rfl⟩ := List.cons.inj hm
      exact ⟨m, rfl, rfl⟩

/-- What a lowercase text opens with, up to a barrier, does not depend on what follows characters without
case that do not stand in the opening. -/
theorem prefix_lower_append_iff {cut p : Text} (hcut : ∀ c ∈ cut, IsCaseless c) (hb : IsBarrier b)
    (hbcut : b ∉ cut) (hne : cut ≠ []) (hp : ¬ cut <:+: p) (s t : Text) :
    p ++ [b] <+: lower (s ++ (cut ++ t)) ↔ p ++ [b] <+: lower s := by
  rw [prefix_lower_iff hb, prefix_lower_iff hb]
  constructor
  · rintro ⟨u, r, h, rfl⟩
    rcases append_cut_eq_append_cons hbcut hne h with ⟨w, rfl, -⟩ | ⟨v, rfl, -⟩
    · exact absurd (infix_lower hcut (List.infix_append' s cut w)) hp
    · exact ⟨u, v, rfl, rfl⟩
  · rintro ⟨u, r, rfl, hu⟩
    exact ⟨u, r ++ (cut ++ t), by simp, hu⟩

theorem lower_eq_nil_iff {t : Text} : lower t = [] ↔ t = [] := by
  constructor
  · intro h
    cases t with
    | nil => rfl
    | cons c t =>
      exact absurd (List.append_eq_nil_iff.1 h).1 (lowerBetween_ne_nil [] c t)
  · rintro rfl
    rfl

/-- Blanks before a text stay blanks when it is lowercased. -/
theorem trimStart_lower (t : Text) : trimStart (lower t) = lower (trimStart t) := by
  induction t with
  | nil => rfl
  | cons c t ih =>
    by_cases hc : isBlank c
    · rw [lower_cons_barrier (isBarrier_of_isBlank hc)]
      simp only [trimStart, List.dropWhile_cons_of_pos hc]
      exact ih
    · have hstart : trimStart (c :: t) = c :: t := List.dropWhile_cons_of_neg hc
      rw [hstart]
      cases hlower : lower (c :: t) with
      | nil => rfl
      | cons d r =>
        refine List.dropWhile_cons_of_neg fun hd => hc ?_
        have hd' : d ∈ lowerBetween [] c t := by
          have hne : lowerBetween [] c t ≠ [] := lowerBetween_ne_nil [] c t
          obtain ⟨e, v, hev⟩ := List.exists_cons_of_ne_nil hne
          have hhead : e :: v ++ lowerAfter [c] t = d :: r := by rw [← hev]; exact hlower
          rw [hev, (List.cons.inj hhead).1]
          exact List.mem_cons_self
        rw [eq_of_mem_lowerBetween (isBarrier_of_isBlank hd).1 hd']
        exact hd

theorem lower_append_blanks (s : Text) {w : Text} (hw : ∀ c ∈ w, isBlank c) :
    lower (s ++ w) = lower s ++ w := by
  induction w generalizing s with
  | nil => simp
  | cons b w ih =>
    obtain ⟨hb, hw⟩ := List.forall_mem_cons.1 hw
    have hrest := ih [] hw
    rw [List.nil_append, show lower [] = [] from rfl, List.nil_append] at hrest
    rw [lower_append_barrier (isBarrier_of_isBlank hb), hrest]

theorem lower_blanks_append {w : Text} (hw : ∀ c ∈ w, isBlank c) (t : Text) :
    lower (w ++ t) = w ++ lower t := by
  induction w with
  | nil => rfl
  | cons b w ih =>
    obtain ⟨hb, hw⟩ := List.forall_mem_cons.1 hw
    rw [List.cons_append, lower_cons_barrier (isBarrier_of_isBlank hb), ih hw, List.cons_append]

/-- A text comes apart at a gap. -/
theorem lower_append_gap (s : Text) {g : Text} (hg : IsGap g) (t : Text) :
    lower (s ++ (g ++ t)) = lower s ++ (g ++ lower t) := by
  obtain ⟨b, g, rfl⟩ := List.exists_cons_of_ne_nil hg.1
  obtain ⟨hb, hblanks⟩ := List.forall_mem_cons.1 hg.2
  rw [List.cons_append, lower_append_barrier (isBarrier_of_isBlank hb), lower_blanks_append hblanks,
    List.cons_append]

theorem trimEnd_lower {t : Text} (ht : trimEnd t = t) : trimEnd (lower t) = lower t := by
  obtain ⟨after, hlower, hafter⟩ := exists_trimEnd (lower t)
  cases after with
  | nil =>
    rw [List.append_nil] at hlower
    exact hlower.symm
  | cons b after =>
    obtain ⟨p, q, rfl, hp, hq⟩ :=
      lower_eq_append_cons (isBarrier_of_isBlank (hafter b List.mem_cons_self)) hlower
    have hblank : ∀ c ∈ b :: q, isBlank c := by
      refine List.forall_mem_cons.2 ⟨hafter b List.mem_cons_self, ?_⟩
      have htrim : trimStart (lower q) = [] :=
        trimStart_eq_nil_iff.2 fun c hc => hafter c (List.mem_cons_of_mem b (hq ▸ hc))
      rw [trimStart_lower, lower_eq_nil_iff] at htrim
      exact trimStart_eq_nil_iff.1 htrim
    rw [trimEnd_append_blanks p hblank] at ht
    obtain ⟨after', hp', -⟩ := exists_trimEnd p
    have hlength := congrArg List.length hp'
    rw [ht] at hlength
    simp at hlength

/-- Blanks around a text stay around its lowercase. -/
theorem lower_trim (t : Text) :
    ∃ before after, lower t = before ++ (lower (trim t) ++ after) ∧ (∀ c ∈ before, isBlank c) ∧
      ∀ c ∈ after, isBlank c := by
  obtain ⟨before, after, ht, hbefore, hafter⟩ := exists_trim t
  refine ⟨before, after, ?_, hbefore, hafter⟩
  conv_lhs => rw [ht, lower_append_blanks _ hafter, lower_blanks_append hbefore, List.append_assoc]

theorem lower_trim_of_not_blank {t : Text} (h : ∀ c ∈ lower t, isBlank c = false) :
    lower (trim t) = lower t := by
  obtain ⟨before, after, hlower, hbefore, hafter⟩ := lower_trim t
  have hnone {s : Text} (hs : ∀ c ∈ s, isBlank c) (hsub : s ⊆ lower t) : s = [] := by
    refine List.eq_nil_iff_forall_not_mem.2 fun c hc => ?_
    have hblank := h c (hsub hc)
    rw [hs c hc] at hblank
    cases hblank
  rw [hlower] at hnone
  rw [hlower, hnone hbefore (by simp), hnone hafter (by simp), List.nil_append, List.append_nil]

/-- A lowercase word holds no blank. -/
theorem isBlank_lower {w : Text} (hw : ∀ c ∈ w, isWord c = true) : ∀ c ∈ lower w, isBlank c = false := by
  intro c hc
  by_contra hblank
  rw [Bool.not_eq_false] at hblank
  have hmem := (mem_lower_iff (isBarrier_of_isBlank hblank).1).1 hc
  rw [isBlank_of_isWord (hw c hmem)] at hblank
  cases hblank

theorem not_mem_lower_of_isBlank {w : Text} (hw : ∀ c ∈ w, isWord c = true) (hb : isBlank b = true) :
    b ∉ lower w := by
  intro hmem
  rw [isBlank_lower hw b hmem] at hb
  cases hb

/-! ## ASCII -/

/-- Beside the letters of ASCII, only the Kelvin sign has a lowercase in ASCII. -/
theorem isAscii_of_lowerChar {c : Char} (h : ∀ d ∈ lowerChar c, isAscii d = true ∧ d ≠ 'k') :
    isAscii c = true := by
  by_contra hc
  unfold lowerChar at h
  rw [if_neg hc] at h
  split at h
  · have hdot := (h '\u0307' (by simp)).1
    cases hdot
  split at h
  · rename_i r hfind
    have hr := List.mem_of_find?_eq_some hfind
    have hmaps := List.find?_some hfind
    simp only [CaseRun.maps, Bool.and_eq_true, decide_eq_true_eq] at hmaps
    have htable : ∀ r ∈ caseRuns, 128 ≤ r.lower ∨ r.first = r.last ∧ r.lower = 'k'.toNat := by
      decide +kernel
    obtain ⟨hascii, hk⟩ := h _ (List.mem_singleton_self _)
    have hnat := toNat_ofNat_caseRun hr (n := c.toNat - r.first) (by omega)
    rcases htable r hr with hlower | ⟨hone, hlower⟩
    · simp only [isAscii, decide_eq_true_eq] at hascii
      omega
    · refine hk (Char.toNat_inj.1 ?_)
      omega
  · exact hc (h c (List.mem_singleton_self c)).1

theorem isAscii_of_lowerAfter {before t : Text}
    (h : ∀ d ∈ lowerAfter before t, isAscii d = true ∧ d ≠ 'k') : ∀ c ∈ t, isAscii c = true := by
  induction t generalizing before with
  | nil => simp
  | cons c t ih =>
    rw [lowerAfter] at h
    refine List.forall_mem_cons.2 ⟨?_, ih fun d hd => h d (List.mem_append_right _ hd)⟩
    have hc := fun d hd => h d (List.mem_append_left _ hd)
    unfold lowerBetween at hc
    split at hc
    · have hfinal := (hc 'ς' (List.mem_singleton_self _)).1
      cases hfinal
    · exact isAscii_of_lowerChar hc

theorem lowerAfter_eq_lowerAscii {t : Text} (h : ∀ c ∈ t, isAscii c = true) (before : Text) :
    lowerAfter before t = lowerAscii t := by
  induction t generalizing before with
  | nil => rfl
  | cons c t ih =>
    obtain ⟨hc, ht⟩ := List.forall_mem_cons.1 h
    have hsigma : (c == 'Σ') = false := by
      rw [beq_eq_false_iff_ne]
      rintro rfl
      cases hc
    rw [lowerAfter, lowerBetween, hsigma, ih ht, lowerChar, if_pos hc]
    rfl

/-- An ASCII word without the letter k is the lowercase of its spellings by ASCII case only. -/
theorem lower_eq_iff_lowerAscii_eq {w t : Text} (hw : ∀ c ∈ w, isAscii c = true) (hk : 'k' ∉ w)
    (hlower : lower w = w) : lower t = w ↔ lowerAscii t = w := by
  constructor
  · intro h
    have hplain : ∀ d ∈ lower t, isAscii d = true ∧ d ≠ 'k' := by
      rw [h]
      exact fun d hd => ⟨hw d hd, ne_of_mem_of_not_mem hd hk⟩
    rw [← h]
    exact (lowerAfter_eq_lowerAscii (isAscii_of_lowerAfter hplain) []).symm
  · intro h
    rw [← lower_lowerAscii, h, hlower]

/-! ## Words -/

/-- A word does not reach over a character that is no word character. -/
theorem hasWord_append {c : Char} (hc : isWord c = false) (w s t : Text) :
    hasWord w (s ++ c :: t) = (hasWord w s || hasWord w t) := by
  unfold hasWord runs
  rw [List.splitOnP_append_cons s t (by simp [hc]), List.filter_append, List.contains_append]

/-- The form that a sigma has inside a word. -/
def medialSigma (c : Char) : Char :=
  if c == 'ς' then 'σ' else c

theorem isWord_medialSigma (c : Char) : isWord (medialSigma c) = isWord c := by
  unfold medialSigma
  split
  · rename_i hc
    rw [eq_of_beq hc]
    decide +kernel
  · rfl

/-- But for the form of sigmas, a text is lowercased character by character. -/
theorem map_medialSigma_lowerAfter (before t : Text) :
    (lowerAfter before t).map medialSigma = (t.flatMap lowerChar).map medialSigma := by
  induction t generalizing before with
  | nil => rfl
  | cons c t ih =>
    have hc : (lowerBetween before c t).map medialSigma = (lowerChar c).map medialSigma := by
      unfold lowerBetween
      split
      · rename_i hsigma
        simp only [Bool.and_eq_true, beq_iff_eq] at hsigma
        rw [hsigma.1.1]
        decide
      · rfl
    rw [lowerAfter, List.map_append, hc, ih, List.flatMap_cons, List.map_append]

theorem medialSigma_eq_iff {c d : Char} (hc : isAscii c) : medialSigma d = c ↔ d = c := by
  unfold medialSigma
  split
  · rename_i hd
    rw [eq_of_beq hd]
    constructor
    · rintro rfl
      cases hc
    · rintro rfl
      cases hc
  · exact Iff.rfl

theorem map_medialSigma_eq_iff {w u : Text} (hw : ∀ c ∈ w, isAscii c) :
    u.map medialSigma = w ↔ u = w := by
  induction w generalizing u with
  | nil => exact List.map_eq_nil_iff
  | cons c w ih =>
    cases u with
    | nil => simp
    | cons d u =>
      obtain ⟨hc, hw⟩ := List.forall_mem_cons.1 hw
      rw [List.map_cons, List.cons.injEq, List.cons.injEq, medialSigma_eq_iff hc, ih hw]

theorem hasWord_map_medialSigma {w : Text} (hw : ∀ c ∈ w, isAscii c) (t : Text) :
    hasWord w (t.map medialSigma) = hasWord w t := by
  unfold hasWord
  rw [runs_map isWord_medialSigma, Bool.eq_iff_iff, List.contains_iff_mem, List.contains_iff_mem,
    List.mem_map]
  constructor
  · rintro ⟨u, hu, heq⟩
    rwa [← (map_medialSigma_eq_iff hw).1 heq]
  · exact fun h => ⟨w, h, (map_medialSigma_eq_iff hw).2 rfl⟩

/-- Whether a lowercase text holds an ASCII word does not depend on the form of its sigmas. -/
theorem hasWord_lower {w : Text} (hw : ∀ c ∈ w, isAscii c) (t : Text) :
    hasWord w (lower t) = hasWord w (t.flatMap lowerChar) := by
  rw [← hasWord_map_medialSigma hw, ← hasWord_map_medialSigma hw (t.flatMap lowerChar)]
  exact congrArg (hasWord w) (map_medialSigma_lowerAfter [] t)

theorem hasWord_lower_append_cons {w : Text} (hw : ∀ c ∈ w, isAscii c) {c : Char} (hc : IsCaseless c)
    (hword : isWord c = false) (s t : Text) :
    hasWord w (lower (s ++ c :: t)) = (hasWord w (lower s) || hasWord w (lower t)) := by
  rw [hasWord_lower hw, hasWord_lower hw s, hasWord_lower hw t, List.flatMap_append, List.flatMap_cons, hc.1,
    List.singleton_append, hasWord_append hword]

theorem hasWord_lower_append_barrier (hb : IsBarrier b) (hword : isWord b = false) (w s t : Text) :
    hasWord w (lower (s ++ b :: t)) = (hasWord w (lower s) || hasWord w (lower t)) := by
  rw [lower_append_barrier hb, hasWord_append hword]

theorem hasWord_nil (w : Text) : hasWord w [] = false := by
  simp [hasWord, runs]

theorem hasWord_blanks_append {u : Text} (hu : ∀ c ∈ u, isBlank c) (w t : Text) :
    hasWord w (u ++ t) = hasWord w t := by
  induction u with
  | nil => rfl
  | cons b u ih =>
    obtain ⟨hb, hu⟩ := List.forall_mem_cons.1 hu
    have hfirst := hasWord_append (isWord_of_isBlank hb) w [] (u ++ t)
    rw [hasWord_nil, Bool.false_or, ih hu] at hfirst
    exact hfirst

theorem hasWord_append_gap {g : Text} (hg : IsGap g) (w s t : Text) :
    hasWord w (s ++ (g ++ t)) = (hasWord w s || hasWord w t) := by
  obtain ⟨b, g, rfl⟩ := List.exists_cons_of_ne_nil hg.1
  obtain ⟨hb, hblanks⟩ := List.forall_mem_cons.1 hg.2
  rw [List.cons_append, hasWord_append (isWord_of_isBlank hb), hasWord_blanks_append hblanks]

end ApexOutline.Text
