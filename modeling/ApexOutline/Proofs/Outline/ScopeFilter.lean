import ApexOutline.Proofs.Outline.Reading
import ApexOutline.Proofs.Scope
import Mathlib.Data.List.Forall2
/-!
# Scopes filter and do nothing else

Two runs over one source with different scopes go through the same states and differ only in which
members they keep. `Agree` says what two scope lists can make of one line, `step_agree` that they make
nothing else of it, and `scopes_only_filter` collects what follows for whole outlines.
-/

namespace ApexOutline

open Text

/-- The declaration with its scope left out. -/
def Declaration.eraseScope (d : Declaration) : Declaration :=
  { d with scope := none }

namespace Outline

/-- What two scope lists make of one line. -/
inductive Agree (c c' : ScopeList) : Outcome → Outcome → Prop
  -- Neither finds a declaration, for the same reason.
  | same {o : Outcome} : o.declaration? = none → Agree c c' o o
  -- Both find the declaration.
  | both {d d' : Declaration} : d.eraseScope = d'.eraseScope → Agree c c' (.declared d) (.declared d')
  -- Only one does: then it declares no type, and if it is the first, some keyword is only listed there.
  | left {d : Declaration} : d.kind.isType = false → ¬ c.keywords ⊆ c'.keywords →
      Agree c c' (.declared d) .skipped
  | right {d : Declaration} : d.kind.isType = false → Agree c c' .skipped (.declared d)

variable {c c' : ScopeList}

/-! ## One line -/

theorem isType_declare (s : State) (scopes : ScopeList) (number : Nat) (line : Text) :
    (s.declare scopes number line).kind.isType = (TypeHeader.ofLine? line).isSome :=
  isType_kindAndName line _

/-- A line that is kept with one list and not with the other is no header, so it opens no type. -/
theorem openTypesAfter_of_not_kept {s : State} {line : Text} {context : Option Context}
    (h : Line.isKept line c context = false) (scopes : ScopeList) (number : Nat) :
    TypeHeader.ofLine? line = none ∧ s.openTypesAfter (s.declare scopes number line) line = s.openTypes := by
  have hnone : TypeHeader.ofLine? line = none := by
    rw [← Option.not_isSome_iff_eq_none]
    intro hsome
    rw [Line.isKept_of_header hsome] at h
    cases h
  exact ⟨hnone, openTypesAfter_eq (.inl hnone)⟩

/-- Whatever the scopes, a line leads to the same state, and its outcomes agree. -/
theorem step_agree (c c' : ScopeList) (s : State) (number : Nat) (line : Text) :
    (s.step c number line).1 = (s.step c' number line).1 ∧
      Agree c c' (s.step c number line).2 (s.step c' number line).2 := by
  have hreads := step_reads c number s line
  generalize (s.step c number line).1 = t at hreads ⊢
  generalize (s.step c number line).2 = o at hreads ⊢
  suffices h : ∃ t' o', Reads c' number s (trim line) t' o' ∧ t = t' ∧ Agree c c' o o' by
    obtain ⟨t', o', h, ht, ho⟩ := h
    rw [h.step_eq]
    exact ⟨ht, ho⟩
  cases hreads with
  | comment h => exact ⟨_, _, .comment h, rfl, .same rfl⟩
  | blank hout h => exact ⟨_, _, .blank hout h, rfl, .same rfl⟩
  | opening hout h => exact ⟨_, _, .opening hout h, rfl, .same rfl⟩
  | below hout hcode h => exact ⟨_, _, .below hout hcode h, rfl, .same rfl⟩
  | annotations hout hcode h hann => exact ⟨_, _, .annotations hout hcode h hann, rfl, .same rfl⟩
  | declared hout hcode h hann hkept =>
    cases hkept' : Line.isKept (trim line) c' s.context with
    | true => exact ⟨_, _, .declared hout hcode h hann hkept', rfl, .both rfl⟩
    | false =>
      obtain ⟨hnone, htypes⟩ := openTypesAfter_of_not_kept hkept' c number
      refine ⟨_, _, .skipped hout hcode h hann hkept', by rw [htypes], .left ?_ ?_⟩
      · rw [isType_declare, hnone]
        rfl
      · intro hsub
        rw [Line.isKept_mono hsub hkept] at hkept'
        cases hkept'
  | skipped hout hcode h hann hkept =>
    cases hkept' : Line.isKept (trim line) c' s.context with
    | true =>
      obtain ⟨hnone, htypes⟩ := openTypesAfter_of_not_kept hkept c' number
      refine ⟨_, _, .declared hout hcode h hann hkept', by rw [htypes], .right ?_⟩
      rw [isType_declare, hnone]
      rfl
    | false => exact ⟨_, _, .skipped hout hcode h hann hkept', rfl, .same rfl⟩

/-! ## Runs -/

theorem run_agree (c c' : ScopeList) (s : State) (number : Nat) (ls : List Text) :
    State.after c s number ls = State.after c' s number ls ∧
      List.Forall₂ (Agree c c') (outcomes c s number ls) (outcomes c' s number ls) := by
  induction ls generalizing s number with
  | nil => exact ⟨rfl, .nil⟩
  | cons line ls ih =>
    obtain ⟨hstate, hagree⟩ := step_agree c c' s number line
    obtain ⟨hafter, hrest⟩ := ih (s.step c number line).1 (number + 1)
    simp only [State.after, outcomes]
    rw [← hstate]
    exact ⟨hafter, .cons hagree hrest⟩

theorem types_of_agree {os os' : List Outcome} (h : List.Forall₂ (Agree c c') os os') :
    ((os.filterMap Outcome.declaration?).filter (·.kind.isType)).map Declaration.eraseScope =
      ((os'.filterMap Outcome.declaration?).filter (·.kind.isType)).map Declaration.eraseScope := by
  induction h with
  | nil => rfl
  | cons hagree _ ih =>
    cases hagree with
    | same ho => simpa only [List.filterMap_cons, ho] using ih
    | @both d d' hd =>
      have hkind : d.eraseScope.kind = d'.eraseScope.kind := by rw [hd]
      change d.kind = d'.kind at hkind
      simp only [List.filterMap_cons, Outcome.declaration?, List.filter_cons, hkind]
      split
      · rw [List.map_cons, List.map_cons, hd, ih]
      · exact ih
    | left hd _ =>
      simp only [List.filterMap_cons, Outcome.declaration?, List.filter_cons, hd]
      exact ih
    | right hd =>
      simp only [List.filterMap_cons, Outcome.declaration?, List.filter_cons, hd]
      exact ih

theorem count_of_agree {os os' : List Outcome} (h : List.Forall₂ (Agree c c') os os') :
    (os.filterMap Outcome.declaration?).length + os.count .skipped =
      (os'.filterMap Outcome.declaration?).length + os'.count .skipped := by
  have hne (d : Declaration) : Outcome.declared d ≠ .skipped := Outcome.noConfusion
  induction h with
  | nil => rfl
  | cons hagree _ ih =>
    cases hagree with
    | same ho =>
      simp only [List.filterMap_cons, ho, List.count_cons]
      omega
    | both _ =>
      simp only [List.filterMap_cons, Outcome.declaration?, List.length_cons,
        List.count_cons_of_ne (hne _)]
      omega
    | left _ _ =>
      simp only [List.filterMap_cons, Outcome.declaration?, List.length_cons,
        List.count_cons_of_ne (hne _), List.count_cons_self]
      omega
    | right _ =>
      simp only [List.filterMap_cons, Outcome.declaration?, List.length_cons,
        List.count_cons_of_ne (hne _), List.count_cons_self]
      omega

theorem sublist_of_agree (hsub : c.keywords ⊆ c'.keywords) {os os' : List Outcome}
    (h : List.Forall₂ (Agree c c') os os') :
    ((os.filterMap Outcome.declaration?).map Declaration.eraseScope).Sublist
      ((os'.filterMap Outcome.declaration?).map Declaration.eraseScope) := by
  induction h with
  | nil => exact .slnil
  | cons hagree _ ih =>
    cases hagree with
    | same ho => simpa only [List.filterMap_cons, ho] using ih
    | both hd =>
      simp only [List.filterMap_cons, Outcome.declaration?, List.map_cons, hd]
      exact ih.cons_cons _
    | left _ hnot => exact absurd hsub hnot
    | right _ =>
      simp only [List.filterMap_cons, Outcome.declaration?, List.map_cons]
      exact ih.cons _

/-! ## Outlines -/

/-- Scopes only filter. With any two scope lists the lines of a source go through the same states, the
same types are declared, and as many lines are either declarations or skipped; with more scopes the
same declarations are found, and further ones between them. -/
theorem scopes_only_filter (source : Text) (c c' : ScopeList) :
    (∀ n, State.after c {} 1 ((lines source).take n) = State.after c' {} 1 ((lines source).take n)) ∧
      ((ofSource c source).declarations.filter (·.kind.isType)).map Declaration.eraseScope =
        ((ofSource c' source).declarations.filter (·.kind.isType)).map Declaration.eraseScope ∧
      (ofSource c source).declarations.length + (ofSource c source).skippedLines =
        (ofSource c' source).declarations.length + (ofSource c' source).skippedLines ∧
      (c.keywords ⊆ c'.keywords →
        ((ofSource c source).declarations.map Declaration.eraseScope).Sublist
          ((ofSource c' source).declarations.map Declaration.eraseScope)) := by
  obtain ⟨-, hagree⟩ := run_agree c c' {} 1 (lines source)
  refine ⟨fun n => (run_agree c c' {} 1 _).1, types_of_agree hagree, count_of_agree hagree, ?_⟩
  intro hsub
  exact sublist_of_agree hsub hagree

/-- With `public` alone the types and the public field are found; listing `private` as well finds the
static field between them. -/
theorem scopes_only_filter_private :
    let source := "class A \x7b\nstatic Integer i;\nenum B \x7b X \x7d\npublic String s;\n\x7d".toList
    let c : ScopeList := ⟨["public".toList]⟩
    let c' : ScopeList := ⟨["private".toList, "public".toList]⟩
    c.keywords ⊆ c'.keywords ∧
      (ofSource c source).declarations.map (·.lineNumber) = [1, 3, 4] ∧
      (ofSource c' source).declarations.map (·.lineNumber) = [1, 2, 3, 4] ∧
      ((ofSource c source).declarations.map Declaration.eraseScope).Sublist
        ((ofSource c' source).declarations.map Declaration.eraseScope) :=
  ⟨by decide, by decide +kernel, by decide +kernel, (scopes_only_filter _ _ _).2.2.2 (by decide)⟩

end Outline

end ApexOutline
