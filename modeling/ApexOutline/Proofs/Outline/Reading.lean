import ApexOutline.Outline.Basic
import ApexOutline.Proofs.Text.Words
import Mathlib.Tactic.Common
/-!
# How a line is read

A line is read in one of seven ways. `Reads` lists them with their conditions, and
`readLine_eq_iff` says that the list is complete; the theorems about outlines split on these seven
ways and do not look at the code again. The second part is about whole runs: what is read after some
lines depends on them only through the state they leave (`after_append`, `outcomes_append`), and
every declaration stands on one line (`mem_declarations_iff`).
-/

namespace ApexOutline

open Text

namespace Line

/-- The line is blank or a line comment. -/
def IsRemark (line : Text) : Prop :=
  line = [] ∨ "//".toList <+: line

/-- The line is neither blank nor does it start a comment. -/
def IsCode (line : Text) : Prop :=
  line ≠ [] ∧ ¬ "//".toList <+: line ∧ ¬ "/*".toList <+: line

/-- The line holds annotations only. -/
def IsAnnotations (line : Text) : Prop :=
  trim (Annotations.strip line) = []

instance (line : Text) : Decidable (IsRemark line) :=
  inferInstanceAs (Decidable (_ ∨ _))

instance (line : Text) : Decidable (IsCode line) :=
  inferInstanceAs (Decidable (_ ∧ _))

instance (line : Text) : Decidable (IsAnnotations line) :=
  inferInstanceAs (Decidable (_ = _))

theorem isRemark_iff {line : Text} :
    (line.isEmpty || "//".toList.isPrefixOf line) = true ↔ IsRemark line := by
  rw [Bool.or_eq_true, List.isEmpty_iff, List.isPrefixOf_iff_prefix]
  rfl

theorem isCode_iff {line : Text} : IsCode line ↔ ¬ IsRemark line ∧ ¬ "/*".toList <+: line := by
  unfold IsCode IsRemark
  rw [not_or, and_assoc]

end Line

namespace Outline

/-! ## One line -/

/-- The state after a declaration or a skipped line at member level: the doc text that waited is
gone, the types are those given, and the braces of the line are counted. -/
def State.past (s : State) (types : List OpenType) (line : Text) : State :=
  ({ s with pendingDoc := [], openTypes := types } : State).applyBraces line

/-- The seven ways to read a line, its outer blanks dropped: the state after it and what becomes of
it. -/
inductive Reads (scopes : ScopeList) (number : Nat) (s : State) (line : Text) :
    State → Outcome → Prop
  -- Inside a block comment.
  | comment : s.comment ≠ .outside → Reads scopes number s line (s.continueComment line) .comment
  -- Blank, or a line comment.
  | blank : s.comment = .outside → Line.IsRemark line → Reads scopes number s line s .blank
  -- A block comment opens.
  | opening : s.comment = .outside → "/*".toList <+: line →
      Reads scopes number s line (s.openComment line) .comment
  -- Code below member level.
  | below : s.comment = .outside → Line.IsCode line → s.atMemberLevel = false →
      Reads scopes number s line (s.applyBraces line) .skipped
  -- At member level: annotations only.
  | annotations : s.comment = .outside → Line.IsCode line → s.atMemberLevel = true →
      Line.IsAnnotations line → Reads scopes number s line s .annotations
  -- At member level: a declaration.
  | declared : s.comment = .outside → Line.IsCode line → s.atMemberLevel = true →
      ¬ Line.IsAnnotations line → Line.isKept line scopes s.context = true →
      Reads scopes number s line (s.past (s.openTypesAfter (s.declare scopes number line) line) line)
        (.declared (s.declare scopes number line))
  -- At member level: any other code.
  | skipped : s.comment = .outside → Line.IsCode line → s.atMemberLevel = true →
      ¬ Line.IsAnnotations line → Line.isKept line scopes s.context = false →
      Reads scopes number s line (s.past s.openTypes line) .skipped

variable {scopes : ScopeList} {number : Nat} {s s' : State} {line : Text} {outcome : Outcome}

theorem eq_declare_of_reads {d : Declaration} (h : Reads scopes number s line s' (.declared d)) :
    d = s.declare scopes number line := by
  cases h
  rfl

theorem isKept_of_reads {d : Declaration} (h : Reads scopes number s line s' (.declared d)) :
    Line.isKept line scopes s.context = true := by
  cases h with
  | declared _ _ _ _ hkept => exact hkept

theorem atMemberLevel_of_reads {d : Declaration} (h : Reads scopes number s line s' (.declared d)) :
    s.atMemberLevel = true := by
  cases h with
  | declared _ _ hlevel _ _ => exact hlevel

theorem readLine_of_isCode (hout : s.comment = .outside) (hcode : Line.IsCode line) :
    s.readLine scopes number line =
      if s.atMemberLevel then s.readMember scopes number line else (s.applyBraces line, .skipped) := by
  unfold State.readLine
  rw [if_neg (not_not.2 hout), if_neg (fun h => (Line.isCode_iff.1 hcode).1 (Line.isRemark_iff.1 h)),
    if_neg (fun h => hcode.2.2 (List.isPrefixOf_iff_prefix.1 h))]

theorem reads_readMember (hout : s.comment = .outside) (hcode : Line.IsCode line)
    (hlevel : s.atMemberLevel = true) :
    Reads scopes number s line (s.readMember scopes number line).1
      (s.readMember scopes number line).2 := by
  unfold State.readMember
  split
  · rename_i h
    exact .annotations hout hcode hlevel (List.isEmpty_iff.1 h)
  · rename_i h
    have hrest : ¬ Line.IsAnnotations line := fun hann => h (List.isEmpty_iff.2 hann)
    split
    · rename_i hkept
      exact .declared hout hcode hlevel hrest hkept
    · rename_i hkept
      exact .skipped hout hcode hlevel hrest (by simpa using hkept)

/-- Every line is read in one of the seven ways. -/
theorem reads_readLine (scopes : ScopeList) (number : Nat) (s : State) (line : Text) :
    Reads scopes number s line (s.readLine scopes number line).1 (s.readLine scopes number line).2 := by
  unfold State.readLine
  split
  · rename_i h
    exact .comment h
  rename_i hout
  have hout' : s.comment = .outside := not_not.1 hout
  split
  · rename_i h
    exact .blank hout' (Line.isRemark_iff.1 h)
  rename_i hremark
  have hremark' : ¬ Line.IsRemark line := fun h => hremark (Line.isRemark_iff.2 h)
  split
  · rename_i h
    exact .opening hout' (List.isPrefixOf_iff_prefix.1 h)
  rename_i hopening
  have hcode : Line.IsCode line :=
    Line.isCode_iff.2 ⟨hremark', fun h => hopening (List.isPrefixOf_iff_prefix.2 h)⟩
  split
  · rename_i h
    exact reads_readMember hout' hcode h
  · rename_i h
    exact .below hout' hcode (by simpa using h)

/-- A line is read in at most one of the seven ways. -/
theorem Reads.readLine_eq (h : Reads scopes number s line s' outcome) :
    s.readLine scopes number line = (s', outcome) := by
  cases h with
  | comment h => exact if_pos h
  | blank hout h =>
    unfold State.readLine
    rw [if_neg (not_not.2 hout), if_pos (Line.isRemark_iff.2 h)]
  | opening hout h =>
    obtain ⟨rest, rfl⟩ := h
    simp [State.readLine, hout]
  | below hout hcode h => simp [readLine_of_isCode hout hcode, h]
  | annotations hout hcode h hann =>
    have hann' : trim (Annotations.strip line) = [] := hann
    simp [readLine_of_isCode hout hcode, h, State.readMember, hann']
  | declared hout hcode h hann hkept =>
    have hann' : trim (Annotations.strip line) ≠ [] := hann
    simp [readLine_of_isCode hout hcode, h, State.readMember, hann', hkept, State.past]
  | skipped hout hcode h hann hkept =>
    have hann' : trim (Annotations.strip line) ≠ [] := hann
    simp [readLine_of_isCode hout hcode, h, State.readMember, hann', hkept, State.past]

theorem readLine_eq_iff :
    s.readLine scopes number line = (s', outcome) ↔ Reads scopes number s line s' outcome := by
  constructor
  · intro h
    have hreads := reads_readLine scopes number s line
    rwa [h] at hreads
  · exact Reads.readLine_eq

theorem step_reads (scopes : ScopeList) (number : Nat) (s : State) (line : Text) :
    Reads scopes number s (trim line) (s.step scopes number line).1 (s.step scopes number line).2 :=
  reads_readLine scopes number s (trim line)

theorem Reads.step_eq (h : Reads scopes number s (trim line) s' outcome) :
    s.step scopes number line = (s', outcome) :=
  h.readLine_eq

/-! ## Types opened by a line -/

/-- A line declares a type exactly when it is a type header. -/
theorem isType_kindAndName (line : Text) (enclosing : Option Text) :
    (Declaration.kindAndName line enclosing).1.isType = (TypeHeader.ofLine? line).isSome := by
  unfold Declaration.kindAndName
  cases TypeHeader.ofLine? line with
  | some header => rfl
  | none =>
    unfold Declaration.memberOf
    dsimp only
    split
    · split <;> rfl
    · rfl

/-- Only a header that leaves its body open opens a type. -/
theorem openTypesAfter_eq (h : TypeHeader.ofLine? line = none ∨ leavesBodyOpen line = false) :
    s.openTypesAfter (s.declare scopes number line) line = s.openTypes := by
  have hkind := isType_kindAndName line (s.context.map (lower ·.simpleName))
  unfold State.openTypesAfter
  split
  · rename_i keyword name hd _
    rcases h with h | h
    · rw [h] at hkind
      simp only [State.declare] at hd
      rw [hd] at hkind
      cases hkind
    · rw [h, if_neg Bool.false_ne_true]
  · rfl

/-! ## Runs -/

theorem after_append (scopes : ScopeList) (s : State) (number : Nat) (xs ys : List Text) :
    State.after scopes s number (xs ++ ys) =
      State.after scopes (State.after scopes s number xs) (number + xs.length) ys := by
  induction xs generalizing s number with
  | nil => rfl
  | cons x xs ih =>
    simp only [List.cons_append, State.after, List.length_cons]
    rw [ih, Nat.add_right_comm, Nat.add_assoc]

theorem outcomes_append (scopes : ScopeList) (s : State) (number : Nat) (xs ys : List Text) :
    outcomes scopes s number (xs ++ ys) =
      outcomes scopes s number xs ++
        outcomes scopes (State.after scopes s number xs) (number + xs.length) ys := by
  induction xs generalizing s number with
  | nil => rfl
  | cons x xs ih =>
    simp only [List.cons_append, outcomes, State.after, List.length_cons]
    rw [ih, Nat.add_right_comm, Nat.add_assoc]

/-- The outer blanks of the lines do not matter. -/
theorem run_congr {xs ys : List Text} (h : xs.map trim = ys.map trim) (scopes : ScopeList) (s : State)
    (number : Nat) :
    State.after scopes s number xs = State.after scopes s number ys ∧
      outcomes scopes s number xs = outcomes scopes s number ys := by
  induction xs generalizing ys s number with
  | nil =>
    rw [List.map_nil, eq_comm, List.map_eq_nil_iff] at h
    rw [h]
    exact ⟨rfl, rfl⟩
  | cons x xs ih =>
    obtain ⟨y, ys, rfl, hxy, hrest⟩ := List.map_eq_cons_iff.1 h.symm
    have hstep : s.step scopes number x = s.step scopes number y := by
      unfold State.step
      rw [hxy]
    simp only [State.after, outcomes, hstep]
    obtain ⟨h1, h2⟩ := ih hrest.symm (s.step scopes number y).1 (number + 1)
    exact ⟨h1, by rw [h2]⟩

/-- Every outcome is that of one line, read in the state that the lines before it leave. -/
theorem mem_outcomes_iff {xs : List Text} :
    outcome ∈ outcomes scopes s number xs ↔
      ∃ before line rest, xs = before ++ line :: rest ∧
        ((State.after scopes s number before).step scopes (number + before.length) line).2 = outcome := by
  constructor
  · intro h
    induction xs generalizing s number with
    | nil => cases h
    | cons x xs ih =>
      rcases List.mem_cons.1 h with rfl | h
      · exact ⟨[], x, xs, rfl, rfl⟩
      · obtain ⟨before, line, rest, rfl, hline⟩ := ih h
        refine ⟨x :: before, line, rest, rfl, ?_⟩
        rwa [List.length_cons, Nat.add_comm before.length, ← Nat.add_assoc]
  · rintro ⟨before, line, rest, rfl, rfl⟩
    rw [outcomes_append]
    exact List.mem_append_right _ List.mem_cons_self

theorem mem_declarations_iff {d : Declaration} {source : Text} :
    d ∈ (ofSource scopes source).declarations ↔
      ∃ before line rest, lines source = before ++ line :: rest ∧
        ((State.after scopes {} 1 before).step scopes (1 + before.length) line).2 = .declared d := by
  have hmem : d ∈ (ofSource scopes source).declarations ↔
      Outcome.declared d ∈ outcomes scopes {} 1 (lines source) := by
    simp only [ofSource, ofOutcomes, List.mem_filterMap]
    constructor
    · rintro ⟨o, ho, hd⟩
      cases o <;> cases hd
      exact ho
    · exact fun h => ⟨_, h, rfl⟩
  rw [hmem, mem_outcomes_iff]

end Outline

end ApexOutline
