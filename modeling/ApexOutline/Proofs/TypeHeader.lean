import ApexOutline.TypeHeader
import ApexOutline.Proofs.Annotations
/-!
# Lines that are type headers

A line is a type header or not whatever blanks stand around it (`ofLine?_trim`), and it stays one
when its opening brace is appended (`ofLine?_append_brace`). A header line is code
(`ne_slash_of_ofLine?`, `strip_ne_nil_of_ofLine?`), and the name it declares is a non-empty run of
word characters (`name_of_ofLine?`).
-/

namespace ApexOutline.TypeHeader

open Text

theorem ofLine?_trim (line : Text) : ofLine? (trim line) = ofLine? line := by
  unfold ofLine?
  rw [Annotations.words_strip_trim]

theorem ofWords?_append {ws : List Text} {header : TypeHeader} (h : ofWords? ws = some header)
    (more : List Text) : ofWords? (ws ++ more) = some header := by
  unfold ofWords? at h ⊢
  cases hws : ws.dropWhile isModifier with
  | nil => simp [hws] at h
  | cons word rest =>
    cases rest with
    | nil => simp [hws] at h
    | cons next rest =>
      rw [hws] at h
      rw [List.dropWhile_append, hws]
      exact h

theorem detached_brace : Annotations.Detached [' ', '{'] where
  endsName c hc := by cases hc; decide
  opensNone c hc := by cases hc; decide
  closesNone c hc := by cases hc; decide

/-- A header stays the same header when its opening brace is appended. -/
theorem ofLine?_append_brace {line : Text} {header : TypeHeader} (h : ofLine? line = some header) :
    ofLine? (line ++ [' ', '{']) = some header := by
  unfold ofLine? at h ⊢
  rw [words_congr (Annotations.trimStart_strip_append detached_brace line),
    words_append_blank (by decide)]
  exact ofWords?_append h _

/-- The name of a header is not empty and consists of word characters. -/
theorem name_of_ofLine? {line : Text} {header : TypeHeader} (h : ofLine? line = some header) :
    header.name ≠ [] ∧ ∀ c ∈ header.name, isWord c := by
  unfold ofLine? ofWords? at h
  split at h
  · rename_i word next rest hws
    split at h
    · rename_i keyword c name hkeyword hname
      cases h
      refine ⟨List.cons_ne_nil c name, fun d hd => ?_⟩
      rw [← hname] at hd
      exact List.mem_takeWhile_imp hd
    · cases h
  · cases h

theorem strip_ne_nil_of_ofLine? {line : Text} {header : TypeHeader} (h : ofLine? line = some header) :
    trim (Annotations.strip line) ≠ [] := by
  intro hnil
  unfold ofLine? at h
  rw [← words_trim, hnil, words_nil] at h
  cases h

/-- No header starts with a slash, so none is a comment. -/
theorem ne_slash_of_ofLine? {line : Text} {header : TypeHeader} (h : ofLine? line = some header)
    (rest : Text) : line ≠ '/' :: rest := by
  rintro rfl
  have hstrip : Annotations.strip ('/' :: rest) = '/' :: rest := rfl
  have hwords := words_cons (c := '/') (by decide) rest
  have hmod : ∀ w : Text, isModifier ('/' :: w) = false := fun w => rfl
  have hkey : ∀ w : Text, TypeKeyword.ofWord? ('/' :: w) = none := fun w => rfl
  unfold ofLine? ofWords? at h
  rw [hstrip, hwords, List.dropWhile_cons_of_neg (by simp [hmod])] at h
  split at h
  · rename_i word next more heq
    obtain ⟨rfl, -⟩ := List.cons.inj heq
    simp [hkey] at h
  · cases h

end ApexOutline.TypeHeader
