import ApexOutline.Proofs.Text.Parts
/-!
# Marks in a text and texts put together

Whether a mark stands in a text (`has_iff`), and what trimming makes of a text that was put together:
blanks before it do not count (`trim_blanks_append`), nor do empty lines before and after others
(`trim_join_nil_cons`, `trim_join_concat_nil`).
-/

namespace ApexOutline.Text

/-! ## Marks -/

theorem has_iff {part t : Text} : has part t = true ↔ part <:+: t := by
  induction t with
  | nil => rw [has, List.isEmpty_iff, List.infix_nil]
  | cons c t ih => rw [has, Bool.or_eq_true, List.isPrefixOf_iff_prefix, ih, List.infix_cons_iff]

theorem has_append (part s t : Text) : has part (s ++ (part ++ t)) = true :=
  has_iff.2 (List.infix_append' s part t)

/-! ## Trimming -/

theorem trim_trim (t : Text) : trim (trim t) = trim t := by
  obtain ⟨before, after, ht, hbefore, hafter⟩ := exists_trim t
  conv_rhs => rw [ht, trim_append_blanks _ hafter, trim_eq,
    trimStart_append_of_eq_nil (trimStart_eq_nil_iff.2 hbefore)]
  rfl

theorem trim_blanks_append {s : Text} (hs : ∀ c ∈ s, isBlank c) (t : Text) : trim (s ++ t) = trim t := by
  rw [trim_eq, trimStart_append_of_eq_nil (trimStart_eq_nil_iff.2 hs)]
  rfl

theorem trimStart_of_trim_eq {t : Text} (h : trim t = t) : trimStart t = t := by
  have hsuffix : trimStart t <:+ t := List.dropWhile_suffix isBlank
  have hprefix : trim t <+: trimStart t := prefix_dropWhileEnd isBlank _
  rw [h] at hprefix
  exact hsuffix.eq_of_length (le_antisymm hsuffix.length_le hprefix.length_le)

/-! ## Joining -/

theorem join_cons_cons (separator first second : Text) (rest : List Text) :
    join separator (first :: second :: rest) = first ++ separator ++ join separator (second :: rest) := by
  simp [join, List.intercalate]

theorem join_concat (separator last : Text) {pieces : List Text} (h : pieces ≠ []) :
    join separator (pieces ++ [last]) = join separator pieces ++ separator ++ last := by
  induction pieces with
  | nil => exact absurd rfl h
  | cons first pieces ih =>
    cases pieces with
    | nil => simp [join, List.intercalate]
    | cons second pieces =>
      rw [List.cons_append, List.cons_append, join_cons_cons, ← List.cons_append, ih (List.cons_ne_nil _ _),
        join_cons_cons]
      simp only [List.append_assoc]

/-- An empty first line is a blank before the others. -/
theorem trim_join_nil_cons (ls : List Text) : trim (join ['\n'] ([] :: ls)) = trim (join ['\n'] ls) := by
  cases ls with
  | nil => rfl
  | cons first rest =>
    rw [join_cons_cons, List.nil_append]
    exact trim_blanks_append (List.forall_mem_singleton.2 (by decide)) _

/-- An empty last line is a blank after the others. -/
theorem trim_join_concat_nil (ls : List Text) : trim (join ['\n'] (ls ++ [[]])) = trim (join ['\n'] ls) := by
  by_cases h : ls = []
  · rw [h]
    rfl
  · rw [join_concat _ _ h, List.append_nil]
    exact trim_append_blanks _ (List.forall_mem_singleton.2 (by decide))

end ApexOutline.Text
