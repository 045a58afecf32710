import ApexOutline.Text.Cursor
import ApexOutline.Proofs.Text.Words
/-!
# Contiguous parts of a text

What is read off a text is a contiguous part of it: its words (`infix_of_mem_words`), what dropping
characters around it leaves (`infix_dropAround`), and the word before a cursor
(`infix_wordBefore`). The last word of a text is what a cursor at its end finds; a cursor in front of a
character that no name contains finds no more (`wordBefore_takeWhile`).
-/

namespace ApexOutline.Text

/-! ## Pieces -/

/-- The first piece opens the text, and every other piece is a part of it. -/
theorem exists_splitOnP (p : Char → Bool) (t : Text) :
    ∃ first rest, t.splitOnP p = first :: rest ∧ first <+: t ∧ ∀ w ∈ rest, w <:+: t := by
  induction t with
  | nil => exact ⟨[], [], List.splitOnP_nil, List.nil_prefix, by simp⟩
  | cons c t ih =>
    obtain ⟨first, rest, hsplit, hfirst, hrest⟩ := ih
    have hlater : ∀ w, w <:+: t → w <:+: c :: t := fun w hw => hw.trans (List.suffix_cons c t).isInfix
    rw [List.splitOnP_cons_eq_if_modifyHead, hsplit]
    split
    · refine ⟨[], first :: rest, rfl, List.nil_prefix, ?_⟩
      rintro w hw
      rcases List.mem_cons.1 hw with rfl | hw
      · exact hlater _ hfirst.isInfix
      · exact hlater w (hrest w hw)
    · refine ⟨c :: first, rest, rfl, ?_, fun w hw => hlater w (hrest w hw)⟩
      exact (List.prefix_cons_inj c).2 hfirst

theorem infix_of_mem_words {t w : Text} (h : w ∈ words t) : w <:+: t := by
  rw [words_eq] at h
  obtain ⟨first, rest, hsplit, hfirst, hrest⟩ := exists_splitOnP isBlank t
  rw [hsplit] at h
  rcases List.mem_cons.1 (List.mem_of_mem_filter h) with rfl | h
  · exact hfirst.isInfix
  · exact hrest w h

theorem prefix_dropWhileEnd (p : Char → Bool) (t : Text) : dropWhileEnd p t <+: t := by
  unfold dropWhileEnd
  rw [← List.reverse_suffix, List.reverse_reverse]
  exact List.dropWhile_suffix p

theorem infix_dropAround (p : Char → Bool) (t : Text) : dropAround p t <:+: t :=
  (prefix_dropWhileEnd p _).isInfix.trans (List.dropWhile_suffix p).isInfix

theorem infix_trim (t : Text) : trim t <:+: t :=
  infix_dropAround isBlank t

/-- No line contains a line feed. -/
theorem newline_not_mem_of_mem_lines {t l : Text} (h : l ∈ lines t) : '\n' ∉ l := by
  have hpiece {w : Text} (hw : w ∈ t.splitOnP (· == '\n')) : '\n' ∉ w := fun hn => by
    simpa using of_mem_splitOnP hw '\n' hn
  unfold lines at h
  rcases List.mem_append.1 h with h | h
  · obtain ⟨w, hw, rfl⟩ := List.mem_map.1 h
    have hpart : dropReturn w <+: w := by
      unfold dropReturn before?
      split
      · exact List.take_prefix _ w
      · exact List.prefix_refl w
    exact fun hn => hpiece ((List.dropLast_sublist _).subset hw) (hpart.subset hn)
  · exact hpiece (List.mem_of_getLast? (Option.mem_toList.1 (List.mem_of_mem_filter h)))

/-- What a text opens with stands before a character that it does not contain. -/
theorem prefix_append_cons_iff {p s t : Text} {c : Char} (hc : c ∉ p) : p <+: s ++ c :: t ↔ p <+: s := by
  constructor
  · rintro ⟨r, hr⟩
    rcases List.append_eq_append_iff.1 hr with ⟨m, rfl, -⟩ | ⟨m, rfl, hm⟩
    · exact List.prefix_append p m
    · cases m with
      | nil => simp
      | cons d m =>
        obtain ⟨rfl, -⟩ := List.cons.inj hm
        exact absurd (List.mem_append_right s List.mem_cons_self) hc
  · exact fun h => h.trans (List.prefix_append s _)

/-! ## The word before a cursor -/

/-- The last word of a text, where only U+0020 separates words. -/
def lastWord (t : Text) : Text :=
  ((t.reverse.dropWhile (· == ' ')).takeWhile (· != ' ')).reverse

theorem space_not_mem_lastWord (t : Text) : ' ' ∉ lastWord t := by
  intro h
  unfold lastWord at h
  rw [List.mem_reverse] at h
  simpa using List.mem_takeWhile_imp h

theorem infix_lastWord (t : Text) : lastWord t <:+: t := by
  unfold lastWord
  rw [← List.reverse_infix, List.reverse_reverse]
  exact (List.takeWhile_prefix _).isInfix.trans (List.dropWhile_suffix _).isInfix

theorem lastWord_append_spaces (t : Text) {gap : Text} (h : ∀ c ∈ gap, c = ' ') :
    lastWord (t ++ gap) = lastWord t := by
  unfold lastWord
  rw [List.reverse_append, List.dropWhile_append_of_pos]
  intro c hc
  simp [h c (List.mem_reverse.1 hc)]

/-- A run without spaces that a space, or nothing, precedes is the last word. -/
theorem lastWord_append_run {front run : Text} (hfront : ∀ c ∈ front.getLast?, c = ' ') (hne : run ≠ [])
    (hrun : ' ' ∉ run) : lastWord (front ++ run) = run := by
  have hspace : ∀ c ∈ run.reverse, (c != ' ') = true := by
    intro c hc
    apply bne_iff_ne.2
    rintro rfl
    exact hrun (List.mem_reverse.1 hc)
  have hdrop : (run.reverse ++ front.reverse).dropWhile (· == ' ') = run.reverse ++ front.reverse := by
    obtain ⟨c, r, hr⟩ := List.exists_cons_of_ne_nil (List.reverse_ne_nil_iff.2 hne)
    rw [hr] at hspace ⊢
    exact List.dropWhile_cons_of_neg (by simpa using hspace c List.mem_cons_self)
  unfold lastWord
  rw [List.reverse_append, hdrop, takeWhile_append_of_stop, List.takeWhile_eq_self_iff.2 hspace,
    List.reverse_reverse]
  intro c hc
  rw [List.head?_reverse] at hc
  simp [hfront c hc]

/-- Whether the last word of a text reaches back to a character depends only on what follows it. -/
theorem lastWord_append_cons {c : Char} (hc : c ≠ ' ') (v : Text) :
    (∀ s, lastWord (s ++ c :: v) = lastWord v) ∨ ∀ s, c ∈ lastWord (s ++ c :: v) := by
  have hreverse (s : Text) : (s ++ c :: v).reverse = v.reverse ++ c :: s.reverse := by simp
  have hdrop (s : Text) : (v.reverse ++ c :: s.reverse).dropWhile (· == ' ') =
      v.reverse.dropWhile (· == ' ') ++ c :: s.reverse :=
    dropWhile_append_of_stop (by rintro d ⟨⟩; simpa using hc) _
  unfold lastWord
  simp only [hreverse, hdrop]
  generalize v.reverse.dropWhile (· == ' ') = r
  by_cases hall : ∀ d ∈ r, (d != ' ') = true
  · right
    intro s
    rw [List.takeWhile_append_of_pos hall, List.takeWhile_cons_of_pos (by simpa using hc)]
    simp
  · left
    intro s
    rw [List.takeWhile_append, if_neg]
    intro hlength
    refine hall fun d hd => ?_
    rw [← (List.takeWhile_prefix _).eq_of_length hlength] at hd
    exact List.mem_takeWhile_imp (p := (· != ' ')) hd

/-- The last word of a text that does not end in a space reaches back to the last space. -/
theorem lastWord_append_singleton {c : Char} (hc : c ≠ ' ') (t : Text) :
    lastWord (t ++ [c]) = (t.reverse.takeWhile (· != ' ')).reverse ++ [c] := by
  unfold lastWord
  rw [List.reverse_append, List.reverse_singleton, List.singleton_append,
    List.dropWhile_cons_of_neg (by simpa using hc), List.takeWhile_cons_of_pos (by simpa using hc),
    List.reverse_cons]

theorem isIdentifier_space : isIdentifier ' ' = false := by decide

/-- A cursor finds the last word before it, completed to the right when it stands inside a name. -/
theorem wordBefore_eq {t : Text} {index : Nat} (h : index ≤ t.length) :
    wordBefore t index =
      lastWord (t.take index) ++
        if (t.take index).getLast?.any isIdentifier then (t.drop index).takeWhile isIdentifier
        else [] := by
  unfold wordBefore
  rw [if_neg (Nat.not_lt.2 h), List.getLast?_eq_head?_reverse]
  unfold lastWord
  cases (t.take index).reverse with
  | nil => rfl
  | cons c before =>
    by_cases hc : isIdentifier c = true <;> simp [hc]

theorem wordBefore_of_lt {t : Text} {index : Nat} (h : t.length < index) : wordBefore t index = [] := by
  unfold wordBefore
  rw [if_pos h]

/-- The word before a cursor is a contiguous part of the text. -/
theorem infix_wordBefore (t : Text) (index : Nat) : wordBefore t index <:+: t := by
  by_cases hindex : index ≤ t.length
  · rw [wordBefore_eq hindex]
    split
    · rename_i hlast
      obtain ⟨c, hc, hident⟩ := (Option.any_eq_true _ _).1 hlast
      obtain ⟨before, hbefore⟩ := List.getLast?_eq_some_iff.1 hc
      have hne : c ≠ ' ' := by
        rintro rfl
        rw [isIdentifier_space] at hident
        cases hident
      have hword : lastWord (t.take index) <:+ t.take index := by
        rw [hbefore, lastWord_append_singleton hne, ← List.reverse_prefix]
        simp only [List.reverse_append, List.reverse_singleton, List.reverse_reverse,
          List.singleton_append]
        exact (List.prefix_cons_inj c).2 (List.takeWhile_prefix _)
      obtain ⟨u, hu⟩ := hword
      obtain ⟨v, hv⟩ := List.takeWhile_prefix (p := isIdentifier) (l := t.drop index)
      refine ⟨u, v, ?_⟩
      rw [← List.append_assoc, hu, List.append_assoc, hv, List.take_append_drop]
    · rw [List.append_nil]
      exact (infix_lastWord _).trans (List.take_prefix index t).isInfix
  · rw [wordBefore_of_lt (Nat.not_le.1 hindex)]
    exact List.nil_infix

theorem space_not_mem_wordBefore (t : Text) (index : Nat) : ' ' ∉ wordBefore t index := by
  by_cases hindex : index ≤ t.length
  · rw [wordBefore_eq hindex, List.mem_append]
    rintro (h | h)
    · exact space_not_mem_lastWord _ h
    · split at h
      · have hspace := List.mem_takeWhile_imp h
        rw [isIdentifier_space] at hspace
        cases hspace
      · cases h
  · rw [wordBefore_of_lt (Nat.not_le.1 hindex)]
    exact List.not_mem_nil

/-- A cursor in front of a character that no name contains finds the last word before it. -/
theorem wordBefore_takeWhile {p : Char → Bool} (hp : ∀ c, p c = false → isIdentifier c = false)
    (t : Text) : wordBefore t (t.takeWhile p).length = lastWord (t.takeWhile p) := by
  have hprefix : t.takeWhile p <+: t := List.takeWhile_prefix p
  have htake : t.take (t.takeWhile p).length = t.takeWhile p := (List.prefix_iff_eq_take.1 hprefix).symm
  have hdrop : t.drop (t.takeWhile p).length = t.dropWhile p := by
    conv_lhs => arg 2; rw [← List.takeWhile_append_dropWhile (p := p) (l := t)]
    exact List.drop_left
  have hrest : (t.drop (t.takeWhile p).length).takeWhile isIdentifier = [] := by
    rw [hdrop]
    cases hstart : t.dropWhile p with
    | nil => rfl
    | cons c rest =>
      have hstop := List.head?_dropWhile_not p t
      rw [hstart] at hstop
      exact List.takeWhile_cons_of_neg (by simp [hp c (by simpa using hstop)])
  rw [wordBefore_eq hprefix.length_le, htake, hrest, ite_self, List.append_nil]

end ApexOutline.Text
