import ApexOutline.Proofs.Outline.Layout
/-!
# Sources one after the other

When a source ends with a line feed, its lines and those of a source behind it are the lines of the two
together (`lines_append`), whatever their line endings are. What the first one leaves to the second is the
state at its end. A state at rest (`State.AtRest`) differs from the initial one at most in doc lines that
hold no text, and no later line tells the two apart (`outcomes_of_atRest`). So the outline of both is that
of the first and, further down, that of the second (`outline_append`).
-/

namespace ApexOutline

open Text

/-! ## Lines -/

/-- The text is empty or its last line has a line feed. -/
def Text.EndsLine (t : Text) : Prop :=
  t = [] ∨ t.getLast? = some '\n'

theorem Text.lines_nil : lines [] = [] := by
  simp [lines]

theorem Text.lines_append_newline (s t : Text) :
    lines (s ++ '\n' :: t) = (pieces s).map dropReturn ++ lines t := by
  have hne : t.splitOnP (· == '\n') ≠ [] := List.splitOnP_ne_nil _ t
  unfold lines pieces
  rw [List.splitOnP_append_cons s t (by decide)]
  simp only [List.dropLast_append_of_ne_nil hne, List.getLast?_append_of_ne_nil _ hne, List.map_append,
    List.append_assoc]

/-- The lines of two texts are those of the one and then those of the other. -/
theorem Text.lines_append {a : Text} (ha : EndsLine a) (b : Text) : lines (a ++ b) = lines a ++ lines b := by
  rcases ha with rfl | ha
  · rw [lines_nil, List.nil_append, List.nil_append]
  · obtain ⟨front, rfl⟩ := List.getLast?_eq_some_iff.1 ha
    rw [List.append_assoc, List.singleton_append, lines_append_newline, lines_append_newline, lines_nil,
      List.append_nil]

namespace Outline

open DocComment

variable {s t : State}

/-! ## States at rest -/

/-- No brace, no type and no comment is open, and a declaration would get no doc text. -/
structure State.AtRest (s : State) : Prop where
  depth_eq : s.depth = 0
  openTypes_eq : s.openTypes = []
  comment_eq : s.comment = .outside
  doc_eq : ofLines? s.pendingDoc = none

theorem State.AtRest.forgets (h : s.AtRest) : Forgets s {} := by
  refine ⟨[], ?_, .inr ⟨rfl, h.comment_eq, h.doc_eq⟩⟩
  rw [h.depth_eq, h.openTypes_eq, h.comment_eq]

theorem Outcome.moved_zero (o : Outcome) : o.moved (fun _ => 0) = o := by
  cases o <;> rfl

/-- Lines that are read `offset` lines further down, in a state that differs in empty doc lines only, have
the same outcomes but for their numbers. -/
theorem outcomes_of_forgets (h : Forgets s t) (scopes : ScopeList) (number offset : Nat) (ls : List Text) :
    outcomes scopes t (number + offset) ls =
      (outcomes scopes s number ls).map (·.moved fun _ => offset) := by
  induction ls generalizing s t number with
  | nil => rfl
  | cons line ls ih =>
    obtain ⟨hnext, houtcome⟩ := forgets_step h scopes number (fun _ => offset) line
    simp only [outcomes, List.map_cons, houtcome]
    rw [← ih hnext, Nat.add_right_comm]

/-- What follows a state at rest is read as if it stood alone, further down. -/
theorem outcomes_of_atRest (h : s.AtRest) (scopes : ScopeList) (offset : Nat) (ls : List Text) :
    outcomes scopes s (1 + offset) ls =
      (outcomes scopes {} 1 ls).map (·.moved fun _ => offset) := by
  have hsame := outcomes_of_forgets h.forgets scopes (1 + offset) 0 ls
  rw [Nat.add_zero, List.map_congr_left fun o _ => o.moved_zero, List.map_id'] at hsame
  rw [← hsame, outcomes_of_forgets (.refl {})]

/-! ## Sources -/

theorem ofSource_append (scopes : ScopeList) {a : Text} (ha : EndsLine a) (b : Text) :
    ofSource scopes (a ++ b) =
      let rest := ofOutcomes
        (outcomes scopes (State.afterLines scopes (lines a)) (1 + (lines a).length) (lines b))
      ⟨(ofSource scopes a).declarations ++ rest.declarations,
        (ofSource scopes a).skippedLines + rest.skippedLines⟩ := by
  unfold ofSource
  rw [lines_append ha, outcomes_append, ofOutcomes_append]
  rfl

/-- Outlining is compositional. Behind a source that ends at rest, another source has the declarations that
it has alone, as many lines further down as the first has, and the skipped lines add up. Whatever the
first source leaves open, its own declarations come first and stay as they are. -/
theorem outline_append (scopes : ScopeList) {a : Text} (ha : EndsLine a) (b : Text) :
    ((State.afterLines scopes (lines a)).AtRest →
      (ofSource scopes (a ++ b)).declarations =
          (ofSource scopes a).declarations ++ (ofSource scopes b).declarations.map (fun d =>
            { d with lineNumber := d.lineNumber + (lines a).length }) ∧
        (ofSource scopes (a ++ b)).skippedLines =
          (ofSource scopes a).skippedLines + (ofSource scopes b).skippedLines) ∧
      (ofSource scopes a).declarations <+: (ofSource scopes (a ++ b)).declarations := by
  rw [ofSource_append scopes ha b]
  refine ⟨fun hrest => ?_, List.prefix_append _ _⟩
  rw [outcomes_of_atRest hrest scopes, ofOutcomes_map_moved]
  exact ⟨rfl, rfl⟩

/-- The first source has line feeds with and without carriage returns, and ends with a doc comment that has
no text: its lines wait at the end. -/
theorem outline_append_doc :
    let scopes : ScopeList := ⟨["public".toList]⟩
    let a := "public class A \x7b\r\n  Integer n;\n\x7d\r\n/** */\n".toList
    let b := "public class B \x7b\r\n  /** Runs. */\r\n  public void run() \x7b\x7d\n\x7d".toList
    (State.afterLines scopes (lines a)).pendingDoc ≠ [] ∧
      (ofSource scopes (a ++ b)).declarations =
          (ofSource scopes a).declarations ++ (ofSource scopes b).declarations.map (fun d =>
            { d with lineNumber := d.lineNumber + 4 }) ∧
      (ofSource scopes (a ++ b)).declarations.map (fun d => (d.lineNumber, d.docComment)) =
        [(1, none), (5, none), (7, some "Runs.".toList)] ∧
      (ofSource scopes (a ++ b)).skippedLines = 2 + 1 := by
  intro scopes a b
  have hrest : (State.afterLines scopes (lines a)).AtRest := by
    constructor <;> decide +kernel
  have hends : EndsLine a := .inr (by decide +kernel)
  obtain ⟨hdeclarations, hskipped⟩ := (outline_append scopes hends b).1 hrest
  have hlength : (lines a).length = 4 := by decide +kernel
  have hcounts : (ofSource scopes a).skippedLines = 2 ∧ (ofSource scopes b).skippedLines = 1 := by
    decide +kernel
  rw [hlength] at hdeclarations
  rw [hcounts.1, hcounts.2] at hskipped
  exact ⟨by decide +kernel, hdeclarations, by decide +kernel, hskipped⟩

end Outline

end ApexOutline
