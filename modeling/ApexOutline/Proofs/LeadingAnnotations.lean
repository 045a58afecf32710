import ApexOutline.Proofs.Annotations
/-!
# The annotations that open a line

`Annotation` is an annotation as it is written, and `Part` one with the blanks around it. A part is
complete in front of a text when it could not take in more of it (`Part.Complete`); dropping one annotation
takes off exactly a complete part (`after?_eq_some_iff`). So dropping annotations takes off a chain of
complete parts, which is as long as the limit or ends where no annotation opens the text
(`chain_stripUpTo`), and there is only one such chain (`Chain.stripUpTo_eq`).
-/

namespace ApexOutline.Annotations

open Text

/-! ## Annotations as they are written -/

/-- The text is an argument list: blanks, and allowed characters between parentheses. -/
inductive IsArgumentList : Text → Prop
  | mk {gap inside : Text} : (∀ c ∈ gap, isBlank c) → (∀ c ∈ inside, isArgument c) →
      IsArgumentList (gap ++ '(' :: (inside ++ [')']))

theorem IsArgumentList.ne_nil {t : Text} (h : IsArgumentList t) : t ≠ [] := by
  rcases h with ⟨-, -⟩
  simp

/-- An annotation: `@`, a name, and an argument list unless there is none. -/
structure Annotation where
  name : Text
  arguments : Text
  name_ne_nil : name ≠ []
  isWord_name : ∀ c ∈ name, isWord c
  isArgumentList : arguments = [] ∨ IsArgumentList arguments

def Annotation.text (a : Annotation) : Text :=
  '@' :: (a.name ++ a.arguments)

/-- An annotation with blanks around it. -/
structure Part where
  before : Text
  annotation : Annotation
  after : Text
  isBlank_before : ∀ c ∈ before, isBlank c
  isBlank_after : ∀ c ∈ after, isBlank c

def Part.text (p : Part) : Text :=
  p.before ++ (p.annotation.text ++ p.after)

/-- The part has taken in all it can of what follows: the name does not go on, an argument list is not left
behind, and no blank is. -/
structure Part.Complete (p : Part) (rest : Text) : Prop where
  name_ends : ∀ c ∈ (p.annotation.arguments ++ (p.after ++ rest)).head?, isWord c = false
  arguments_taken : p.annotation.arguments = [] →
    ∀ list more, IsArgumentList list → p.after ++ rest ≠ list ++ more
  blanks_taken : ∀ c ∈ rest.head?, isBlank c = false

/-- The line is some complete parts and then `rest`. -/
inductive Chain : List Part → Text → Text → Prop
  | nil {rest : Text} : Chain [] rest rest
  | cons {p : Part} {parts : List Part} {next rest : Text} : p.Complete next → Chain parts next rest →
      Chain (p :: parts) (p.text ++ next) rest

/-- An annotation opens the line: after blanks, `@` and a word character. -/
def Opens (line : Text) : Prop :=
  ∃ before c rest, line = before ++ '@' :: c :: rest ∧ (∀ b ∈ before, isBlank b) ∧ isWord c

variable {line rest : Text} {parts : List Part}

/-! ## One annotation -/

theorem trimStart_blanks_at {before : Text} (h : ∀ c ∈ before, isBlank c) (t : Text) :
    trimStart (before ++ '@' :: t) = '@' :: t := by
  apply trimStart_eq_iff.2
  exact ⟨before, rfl, h, by rintro d ⟨⟩; decide⟩

/-- What follows the name is what stands behind the longest run of word characters after `@`. -/
theorem afterName?_eq_some_iff :
    afterName? line = some rest ↔
      ∃ before name, line = before ++ '@' :: (name ++ rest) ∧ (∀ c ∈ before, isBlank c) ∧ name ≠ [] ∧
        (∀ c ∈ name, isWord c) ∧ ∀ c ∈ rest.head?, isWord c = false := by
  constructor
  · intro h
    unfold afterName? at h
    split at h
    · rename_i c r hline
      obtain ⟨before, rfl, hbefore, -⟩ := trimStart_eq_iff.1 hline
      split at h
      · rename_i hc
        cases h
        refine ⟨before, c :: r.takeWhile isWord, ?_, hbefore, List.cons_ne_nil _ _, ?_, ?_⟩
        · rw [List.cons_append, List.takeWhile_append_dropWhile]
        · intro d hd
          rcases List.mem_cons.1 hd with rfl | hd
          · exact hc
          · exact List.mem_takeWhile_imp hd
        · exact head_dropWhile isWord r
      · cases h
    · cases h
  · rintro ⟨before, name, rfl, hbefore, hne, hword, hrest⟩
    obtain ⟨c, name, rfl⟩ := List.exists_cons_of_ne_nil hne
    obtain ⟨hc, hname⟩ := List.forall_mem_cons.1 hword
    have hdrop : (name ++ rest).dropWhile isWord = rest := by
      rw [dropWhile_append_of_stop hrest, List.dropWhile_eq_nil_iff.2 hname, List.nil_append]
    simp [afterName?, trimStart_blanks_at hbefore, hc, hdrop]

theorem afterList?_eq_some_iff {t : Text} :
    afterList? t = some rest ↔ ∃ inside, t = inside ++ ')' :: rest ∧ ∀ c ∈ inside, isArgument c := by
  constructor
  · intro h
    unfold afterList? at h
    split at h
    · rename_i r hr
      cases h
      refine ⟨t.takeWhile isArgument, ?_, ?_⟩
      · rw [← hr, List.takeWhile_append_dropWhile]
      · intro c hc
        exact List.mem_takeWhile_imp hc
    · cases h
  · rintro ⟨inside, rfl, hinside⟩
    have hclose : isArgument ')' = false := by decide
    simp [afterList?, List.dropWhile_append_of_pos hinside, hclose]

theorem afterArguments?_eq_some_iff {t : Text} :
    afterArguments? t = some rest ↔ ∃ list, IsArgumentList list ∧ t = list ++ rest := by
  constructor
  · intro h
    obtain ⟨r, hr⟩ : ∃ r, trimStart t = '(' :: r := by
      unfold afterArguments? at h
      split at h
      · exact ⟨_, ‹_›⟩
      · cases h
    rw [afterArguments?_of_cons hr] at h
    obtain ⟨inside, rfl, hinside⟩ := afterList?_eq_some_iff.1 h
    obtain ⟨gap, rfl, hgap, -⟩ := trimStart_eq_iff.1 hr
    exact ⟨_, .mk hgap hinside, by simp⟩
  · rintro ⟨_, ⟨hgap, hinside⟩, rfl⟩
    rename_i gap inside
    have hstart : trimStart (gap ++ '(' :: (inside ++ [')']) ++ rest) = '(' :: (inside ++ ')' :: rest) := by
      apply trimStart_eq_iff.2
      exact ⟨gap, by simp, hgap, by rintro d ⟨⟩; decide⟩
    rw [afterArguments?_of_cons hstart]
    exact afterList?_eq_some_iff.2 ⟨inside, rfl, hinside⟩

/-- Dropping the annotation that opens a line takes off a complete part. -/
theorem after?_eq_some_iff :
    after? line = some rest ↔ ∃ p : Part, p.Complete rest ∧ line = p.text ++ rest := by
  rw [after?_eq]
  constructor
  · intro h
    obtain ⟨tail, hname, htail⟩ := Option.map_eq_some_iff.1 h
    obtain ⟨before, name, rfl, hbefore, hne, hword, hstop⟩ := afterName?_eq_some_iff.1 hname
    obtain ⟨gap, hgap, hblank, hrest⟩ := trimStart_eq_iff.1 htail
    cases hlist : afterArguments? tail with
    | some more =>
      obtain ⟨list, hlist', rfl⟩ := afterArguments?_eq_some_iff.1 hlist
      rw [hlist, Option.getD_some] at hgap
      subst hgap
      refine ⟨⟨before, ⟨name, list, hne, hword, .inr hlist'⟩, gap, hbefore, hblank⟩, ⟨hstop, ?_, hrest⟩, ?_⟩
      · intro hnil
        exact absurd hnil hlist'.ne_nil
      · simp [Part.text, Annotation.text]
    | none =>
      rw [hlist, Option.getD_none] at hgap
      subst hgap
      refine ⟨⟨before, ⟨name, [], hne, hword, .inl rfl⟩, gap, hbefore, hblank⟩, ⟨hstop, ?_, hrest⟩, ?_⟩
      · intro _ list more hlist' heq
        rw [afterArguments?_eq_some_iff.2 ⟨list, hlist', heq⟩] at hlist
        cases hlist
      · simp [Part.text, Annotation.text]
  · rintro ⟨⟨before, ⟨name, list, hne, hword, hlist⟩, gap, hbefore, hblank⟩, ⟨hstop, htaken, hrest⟩, rfl⟩
    simp only at hstop htaken
    have hname : afterName? (before ++ '@' :: (name ++ (list ++ (gap ++ rest)))) =
        some (list ++ (gap ++ rest)) :=
      afterName?_eq_some_iff.2 ⟨before, name, rfl, hbefore, hne, hword, hstop⟩
    have hgap : trimStart (gap ++ rest) = rest := trimStart_eq_iff.2 ⟨gap, rfl, hblank, hrest⟩
    have harguments : (afterArguments? (list ++ (gap ++ rest))).getD (list ++ (gap ++ rest)) = gap ++ rest := by
      rcases hlist with rfl | hlist
      · cases h : afterArguments? ([] ++ (gap ++ rest)) with
        | none => rfl
        | some more =>
          obtain ⟨list, hlist, heq⟩ := afterArguments?_eq_some_iff.1 h
          exact absurd heq (htaken rfl list more hlist)
      · rw [afterArguments?_eq_some_iff.2 ⟨list, hlist, rfl⟩]
        rfl
    simp only [Part.text, Annotation.text, List.append_assoc, List.cons_append]
    rw [hname, Option.map_some, harguments, hgap]

theorem isSome_after?_iff : (after? line).isSome ↔ Opens line := by
  rw [after?_eq, Option.isSome_map]
  constructor
  · intro h
    obtain ⟨rest, hrest⟩ := Option.isSome_iff_exists.1 h
    obtain ⟨before, name, rfl, hbefore, hne, hword, -⟩ := afterName?_eq_some_iff.1 hrest
    obtain ⟨c, name, rfl⟩ := List.exists_cons_of_ne_nil hne
    exact ⟨before, c, name ++ rest, rfl, hbefore, hword c List.mem_cons_self⟩
  · rintro ⟨before, c, rest, rfl, hbefore, hc⟩
    simp [afterName?, trimStart_blanks_at hbefore, hc]

theorem after?_eq_none_iff : after? line = none ↔ ¬ Opens line := by
  rw [← isSome_after?_iff, Option.not_isSome_iff_eq_none]

/-! ## Chains -/

theorem Chain.eq_append (h : Chain parts line rest) : line = parts.flatMap Part.text ++ rest := by
  induction h with
  | nil => rfl
  | cons _ _ ih => rw [List.flatMap_cons, List.append_assoc, ← ih]

/-- Dropping as many annotations as a chain has leaves what follows it. -/
theorem Chain.stripUpTo_add (h : Chain parts line rest) (n : Nat) :
    stripUpTo (parts.length + n) line = stripUpTo n rest := by
  induction h with
  | nil => rw [List.length_nil, Nat.zero_add]
  | @cons p parts next rest hp _ ih =>
    have hafter : after? (p.text ++ next) = some next := after?_eq_some_iff.2 ⟨p, hp, rfl⟩
    rw [List.length_cons, Nat.add_right_comm, stripUpTo, hafter]
    exact ih

/-- There is one way to take off a chain that ends at the limit or where no annotation is left. -/
theorem Chain.stripUpTo_eq {n : Nat} (h : Chain parts line rest) (hlength : parts.length ≤ n)
    (hend : parts.length < n → ¬ Opens rest) : stripUpTo n line = rest := by
  obtain ⟨m, rfl⟩ := Nat.exists_eq_add_of_le hlength
  rw [h.stripUpTo_add]
  cases m with
  | zero => rfl
  | succ m =>
    apply stripUpTo_of_after?_eq_none
    exact after?_eq_none_iff.2 (hend (by omega))

/-- Dropping annotations takes off a chain, and stops at the limit or where no annotation is left. -/
theorem chain_stripUpTo (n : Nat) (line : Text) :
    ∃ parts, Chain parts line (stripUpTo n line) ∧ parts.length ≤ n ∧
      (parts.length < n → ¬ Opens (stripUpTo n line)) := by
  induction n generalizing line with
  | zero => exact ⟨[], .nil, le_rfl, fun h => absurd h (Nat.not_lt_zero 0)⟩
  | succ n ih =>
    cases hafter : after? line with
    | none =>
      have hself := stripUpTo_of_after?_eq_none hafter (n + 1)
      rw [hself]
      exact ⟨[], .nil, Nat.zero_le _, fun _ => after?_eq_none_iff.1 hafter⟩
    | some next =>
      obtain ⟨p, hp, rfl⟩ := after?_eq_some_iff.1 hafter
      obtain ⟨parts, hchain, hlength, hend⟩ := ih next
      rw [stripUpTo, hafter]
      refine ⟨p :: parts, .cons hp hchain, ?_, ?_⟩
      · rw [List.length_cons]
        omega
      · rw [List.length_cons]
        intro hlt
        exact hend (by omega)

/-- A brace is never part of an annotation. -/
theorem not_mem_of_chain {b : Char} (hb : isAnnotationChar b = false) (h : Chain parts line (strip line)) :
    b ∉ parts.flatMap Part.text := by
  obtain ⟨shed, hline, hshed⟩ := sheds_strip line
  have hsame : parts.flatMap Part.text = shed := List.append_cancel_right (h.eq_append.symm.trans hline)
  rw [hsame]
  intro hmem
  rw [hshed b hmem] at hb
  cases hb

/-- Dropping annotations takes off a maximal prefix of complete annotations up to the limit of 100. What is
taken off is a chain of at most 100 parts without a brace in it. When there are fewer, no annotation opens
what is left, so that dropping annotations again changes nothing. No other chain ends so, and a line whose
first character other than blanks is not `@` stays as it is. -/
theorem strip_maximal (line : Text) :
    (∃ parts : List Part, parts.length ≤ 100 ∧ Chain parts line (strip line) ∧
      line = parts.flatMap Part.text ++ strip line ∧
      '{' ∉ parts.flatMap Part.text ∧ '}' ∉ parts.flatMap Part.text ∧
      (parts.length < 100 → ¬ Opens (strip line) ∧ strip (strip line) = strip line)) ∧
    (∀ parts rest, Chain parts line rest → parts.length ≤ 100 → (parts.length < 100 → ¬ Opens rest) →
      strip line = rest) ∧
    ((trimStart line).head? ≠ some '@' → strip line = line) := by
  refine ⟨?_, ?_, ?_⟩
  · obtain ⟨parts, hchain, hlength, hend⟩ := chain_stripUpTo limit line
    refine ⟨parts, hlength, hchain, hchain.eq_append, not_mem_of_chain (by decide) hchain,
      not_mem_of_chain (by decide) hchain, ?_⟩
    intro hlt
    have hnone := hend hlt
    exact ⟨hnone, stripUpTo_of_after?_eq_none (after?_eq_none_iff.2 hnone) limit⟩
  · intro parts rest hchain hlength hend
    exact hchain.stripUpTo_eq hlength hend
  · intro hfirst
    apply stripUpTo_of_after?_eq_none
    rw [after?_eq_none_iff]
    rintro ⟨before, c, rest, rfl, hbefore, -⟩
    apply hfirst
    rw [trimStart_blanks_at hbefore]
    rfl

/-- An argument list with a blank before it is taken off with its annotation; one with parentheses inside is
left behind, and dropping annotations again leaves it there. -/
theorem strip_maximal_nested :
    let line := "\t@IsTest (SeeAllData=true) @Future(callout=(true)) void f()".toList
    let rest := "(callout=(true)) void f()".toList
    strip line = rest ∧ strip rest = rest := by
  intro line rest
  let first : Part :=
    { before := ['\t']
      annotation :=
        ⟨"IsTest".toList, " (SeeAllData=true)".toList, by decide, List.all_eq_true.1 (by decide),
          .inr (@IsArgumentList.mk [' '] "SeeAllData=true".toList (List.all_eq_true.1 (by decide))
            (List.all_eq_true.1 (by decide)))⟩
      after := [' ']
      isBlank_before := List.all_eq_true.1 (by decide)
      isBlank_after := List.all_eq_true.1 (by decide) }
  let second : Part :=
    { before := []
      annotation := ⟨"Future".toList, [], by decide, List.all_eq_true.1 (by decide), .inl rfl⟩
      after := []
      isBlank_before := by simp
      isBlank_after := by simp }
  have hnone : afterArguments? rest = none := by decide
  have hsecond : second.Complete rest := by
    refine ⟨by rintro c ⟨⟩; decide, ?_, by rintro c ⟨⟩; decide⟩
    rintro - list more hlist heq
    have hsome : afterArguments? rest = some more := afterArguments?_eq_some_iff.2 ⟨list, hlist, heq⟩
    rw [hnone] at hsome
    cases hsome
  have hfirst : first.Complete (second.text ++ rest) := by
    refine ⟨by rintro c ⟨⟩; decide, ?_, by rintro c ⟨⟩; decide⟩
    intro hnil
    cases hnil
  have hchain : Chain [first, second] line rest := .cons hfirst (.cons hsecond .nil)
  have hend : ¬ Opens rest := after?_eq_none_iff.1 (by decide)
  refine ⟨(strip_maximal line).2.1 _ rest hchain (by decide) fun _ => hend, ?_⟩
  exact (strip_maximal rest).2.2 (by decide)

/-- At the limit, an annotation may be left. -/
example :
    let line := (List.replicate 101 "@A ".toList).flatten
    strip line = "@A ".toList ∧ strip (strip line) = [] := by
  decide +kernel

end ApexOutline.Annotations
