import ApexOutline.Declaration
import ApexOutline.Proofs.Text.Parts
import ApexOutline.Proofs.TypeHeader
/-!
# The name on a line

The name that a line declares is a part of the line without spaces (`name_of_kindAndName`): a type
header's name is a run of word characters in one of its words, and any other name is the last word
before the character that ends it (`memberOf_eq`).
-/

namespace ApexOutline

open Text

theorem Annotations.strip_suffix (line : Text) : strip line <:+ line := by
  obtain ⟨shed, hline, -⟩ := sheds_strip line
  exact ⟨shed, hline.symm⟩

theorem TypeHeader.infix_name {line : Text} {header : TypeHeader} (h : ofLine? line = some header) :
    header.name <:+: line := by
  unfold ofLine? ofWords? at h
  split at h
  · rename_i word next rest hwords
    split at h
    · rename_i keyword c name hkeyword hname
      cases h
      have hnext : next ∈ words (Annotations.strip line) := by
        refine (List.dropWhile_sublist isModifier).subset ?_
        rw [hwords]
        exact List.mem_cons_of_mem _ List.mem_cons_self
      have hpart : c :: name <:+: next := hname ▸ (List.takeWhile_prefix isWord).isInfix
      exact (hpart.trans (infix_of_mem_words hnext)).trans (Annotations.strip_suffix line).isInfix
    · cases h
  · cases h

namespace Declaration

theorem nonEmpty?_eq_some_iff {word name : Text} :
    nonEmpty? word = some name ↔ name = word ∧ word ≠ [] := by
  unfold nonEmpty?
  cases word <;> simp [eq_comm]

theorem isIdentifier_of_endsName {c : Char} (h : (!endsName c) = false) : isIdentifier c = false := by
  unfold endsName at h
  simp only [Bool.not_eq_false', Bool.or_eq_true, beq_iff_eq] at h
  rcases h with (rfl | rfl) | rfl <;> decide

theorem isBlank_of_endsName {c : Char} (h : endsName c = true) : isBlank c = false := by
  unfold endsName at h
  simp only [Bool.or_eq_true, beq_iff_eq] at h
  rcases h with (rfl | rfl) | rfl <;> decide

theorem isIdentifier_of_paren {c : Char} (h : (c != '(') = false) : isIdentifier c = false := by
  have hc : c = '(' := by simpa using h
  rw [hc]
  decide

/-- What ends the name of a line that is no type header: a parenthesis if it has one, and otherwise
the first character that ends the name of a property. -/
def namePart (stripped : Text) : Text :=
  if '(' ∈ stripped then stripped.takeWhile (· != '(') else stripped.takeWhile (!endsName ·)

/-- The name of a member is the last word before the character that ends it. -/
theorem memberOf_eq (stripped : Text) (enclosing : Option Text) :
    memberOf stripped enclosing =
      let name := nonEmpty? (lastWord (namePart stripped))
      (if '(' ∈ stripped then
        if name.isSome && name.map lower == enclosing then .constructor else .method
      else .property, name) := by
  unfold memberOf namePart
  by_cases h : '(' ∈ stripped
  · simp only [List.contains_iff_mem, h, if_true, wordBefore_takeWhile fun c => isIdentifier_of_paren]
  · simp only [List.contains_iff_mem, h, if_false,
      wordBefore_takeWhile fun c => isIdentifier_of_endsName]

theorem prefix_namePart (stripped : Text) : namePart stripped <+: stripped := by
  unfold namePart
  split <;> exact List.takeWhile_prefix _

theorem takeWhile_append_of_mem {p : Char → Bool} {s : Text} {c : Char} (hc : c ∈ s) (hp : p c = false)
    (t : Text) : (s ++ t).takeWhile p = s.takeWhile p := by
  rw [List.takeWhile_append, if_neg]
  intro hlength
  have hself := (List.takeWhile_prefix p).eq_of_length hlength
  rw [← hself] at hc
  rw [List.mem_takeWhile_imp hc] at hp
  cases hp

/-- Text after the character that ends the name changes nothing, unless it holds the first parenthesis. -/
theorem paren_append_iff {s t : Text} (h : '(' ∈ s ∨ '(' ∉ t ∧ ∃ c ∈ s, endsName c = true) :
    '(' ∈ s ++ t ↔ '(' ∈ s := by
  rw [List.mem_append]
  rcases h with h | h
  · simp [h]
  · simp [h.1]

theorem namePart_append {s t : Text} (h : '(' ∈ s ∨ '(' ∉ t ∧ ∃ c ∈ s, endsName c = true) :
    namePart (s ++ t) = namePart s := by
  unfold namePart
  simp only [paren_append_iff h]
  split
  · rename_i hs
    exact takeWhile_append_of_mem hs (by simp) t
  · rename_i hs
    obtain ⟨-, c, hc, hends⟩ := h.resolve_left hs
    exact takeWhile_append_of_mem hc (by simp [hends]) t

theorem memberOf_append {s t : Text} (h : '(' ∈ s ∨ '(' ∉ t ∧ ∃ c ∈ s, endsName c = true)
    (enclosing : Option Text) : memberOf (s ++ t) enclosing = memberOf s enclosing := by
  rw [memberOf_eq, memberOf_eq, namePart_append h]
  simp only [paren_append_iff h]

/-- The part of a line with the name, unless the line declares a type. -/
def nameSource (line : Text) : Text :=
  namePart (trim (Annotations.strip line))

theorem name_kindAndName {line : Text} (hheader : TypeHeader.ofLine? line = none) (enclosing : Option Text) :
    (kindAndName line enclosing).2 = nonEmpty? (lastWord (nameSource line)) := by
  unfold kindAndName nameSource
  rw [hheader, memberOf_eq]

/-- The name on a line is a part of the line, not empty and without spaces. -/
theorem name_of_kindAndName {line name : Text} {enclosing : Option Text}
    (h : (kindAndName line enclosing).2 = some name) :
    name ≠ [] ∧ name <:+: line ∧ ' ' ∉ name := by
  unfold kindAndName at h
  cases hheader : TypeHeader.ofLine? line with
  | some header =>
    rw [hheader] at h
    cases h
    obtain ⟨hne, hword⟩ := TypeHeader.name_of_ofLine? hheader
    refine ⟨hne, TypeHeader.infix_name hheader, fun hspace => ?_⟩
    have hspace' := hword ' ' hspace
    rw [isWord_of_isBlank (by decide)] at hspace'
    cases hspace'
  | none =>
    rw [hheader, memberOf_eq] at h
    obtain ⟨rfl, hne⟩ := nonEmpty?_eq_some_iff.1 h
    refine ⟨hne, ?_, space_not_mem_lastWord _⟩
    have hpart := (infix_lastWord _).trans (prefix_namePart (trim (Annotations.strip line))).isInfix
    exact (hpart.trans (infix_trim _)).trans (Annotations.strip_suffix line).isInfix

end Declaration

end ApexOutline
