import ApexOutline.Proofs.Outline.DocAbove
import Mathlib.Tactic.IntervalCases
/-!
# Layout

Blank lines, line comments, plain block comments, indentation and line endings are inert. A source that
is laid out anew is read side by side with the old one: the states stay the same but for doc lines that
hold no text, which a block comment drops (`Forgets`). `forgets_step` says that a line which stands in
both keeps them so, and `forgets_inert` that lines which stand only in the new one do. So the new outline
differs from the old one in its line numbers only (`layout_inert`).
-/

namespace ApexOutline

open Text

/-! ## Pieces -/

/-- What stands between the line feeds of a text. The carriage return that may belong to a line feed is
the last blank of its piece. -/
def Text.pieces (t : Text) : List Text :=
  t.splitOnP (· == '\n')

/-- A carriage return at the end is a blank. -/
theorem Text.trim_dropReturn (t : Text) : trim (dropReturn t) = trim t := by
  unfold dropReturn before?
  split
  · rename_i h
    obtain ⟨front, rfl⟩ := List.isSuffixOf_iff_suffix.1 h
    have hreturn : ∀ c ∈ ['\r'], isBlank c := by
      intro c hc
      rw [List.mem_singleton.1 hc]
      rfl
    rw [trim_append_blanks front hreturn]
    simp
  · rfl

/-- The pieces are the lines but for their outer blanks and for a last piece that is empty. -/
theorem Text.map_trim_pieces (t : Text) :
    (pieces t).map trim = (lines t).map trim ∨ (pieces t).map trim = (lines t ++ [[]]).map trim := by
  obtain ⟨front, last, hpieces⟩ : ∃ front last, pieces t = front ++ [last] := by
    have hne : pieces t ≠ [] := List.splitOnP_ne_nil _ t
    exact ⟨_, _, (List.dropLast_append_getLast hne).symm⟩
  have hlines : lines t = front.map dropReturn ++ [last].filter (!·.isEmpty) := by
    unfold lines
    rw [show t.splitOnP (· == '\n') = front ++ [last] from hpieces]
    simp
  have hfront : (front.map dropReturn).map trim = front.map trim := by
    rw [List.map_map]
    exact List.map_congr_left fun piece _ => trim_dropReturn piece
  cases last with
  | nil => exact .inr (by simp [hpieces, hlines, hfront])
  | cons c last => exact .inl (by simp [hpieces, hlines, hfront])

namespace Outline

open DocComment

variable {scopes : ScopeList} {number : Nat} {s t : State} {line : Text}

/-! ## Outcomes -/

theorem ofOutcomes_append (os os' : List Outcome) :
    ofOutcomes (os ++ os') =
      ⟨(ofOutcomes os).declarations ++ (ofOutcomes os').declarations,
        (ofOutcomes os).skippedLines + (ofOutcomes os').skippedLines⟩ := by
  simp [ofOutcomes]

theorem ofOutcomes_cons (o : Outcome) (os : List Outcome) :
    ofOutcomes (o :: os) =
      ⟨(ofOutcomes [o]).declarations ++ (ofOutcomes os).declarations,
        (ofOutcomes [o]).skippedLines + (ofOutcomes os).skippedLines⟩ :=
  ofOutcomes_append [o] os

theorem ofOutcomes_quiet_append {os : List Outcome} (h : ofOutcomes os = ⟨[], 0⟩)
    (os' : List Outcome) : ofOutcomes (os ++ os') = ofOutcomes os' := by
  rw [ofOutcomes_append, h, List.nil_append, Nat.zero_add]

theorem ofOutcomes_append_quiet {os' : List Outcome} (h : ofOutcomes os' = ⟨[], 0⟩)
    (os : List Outcome) : ofOutcomes (os ++ os') = ofOutcomes os := by
  rw [ofOutcomes_append, h, List.append_nil, Nat.add_zero]

/-- A declaration whose line has moved down by `shift` of its number. -/
def movedDown (shift : Nat → Nat) (d : Declaration) : Declaration :=
  { d with lineNumber := d.lineNumber + shift d.lineNumber }

/-- The outcome of a line that has moved down. -/
def Outcome.moved (shift : Nat → Nat) : Outcome → Outcome
  | .declared d => .declared (movedDown shift d)
  | o => o

/-- An outline whose lines have moved down. -/
def moved (shift : Nat → Nat) (outline : Outline) : Outline :=
  ⟨outline.declarations.map (movedDown shift), outline.skippedLines⟩

theorem ofOutcomes_map_moved (shift : Nat → Nat) (os : List Outcome) :
    ofOutcomes (os.map (·.moved shift)) = (ofOutcomes os).moved shift := by
  induction os with
  | nil => rfl
  | cons o os ih =>
    have hhead : ofOutcomes [o.moved shift] = (ofOutcomes [o]).moved shift := by cases o <;> rfl
    rw [List.map_cons, ofOutcomes_cons, ofOutcomes_cons o, ih, hhead]
    simp [moved]

/-! ## Lines that are inserted -/

/-- The lines are one block comment that is no doc comment. What its last line holds behind the closing
mark is not read. -/
inductive IsPlainComment : List Text → Prop
  -- On one line; the closing mark does not overlap the opening one.
  | single {line : Text} : "/*".toList <+: trim line → opens line = false → closes 2 line = true →
      IsPlainComment [line]
  -- On more lines, the last of which is the first to close it.
  | more {first last : Text} {inner : List Text} : "/*".toList <+: trim first → opens first = false →
      closes 2 first = false → (∀ line ∈ inner, closes 0 line = false) → closes 0 last = true →
      IsPlainComment (first :: (inner ++ [last]))

/-- Lines that may be inserted in the state `s`: blank lines and line comments outside block comments,
and plain block comments where no doc text waits. -/
inductive Inert (s : State) : List Text → Prop
  | nil : Inert s []
  | remark {line : Text} {rest : List Text} : s.comment = .outside → Line.IsRemark (trim line) →
      Inert s rest → Inert s (line :: rest)
  | comment {block rest : List Text} : s.comment = .outside → ofLines? s.pendingDoc = none →
      IsPlainComment block → Inert s rest → Inert s (block ++ rest)

theorem Inert.outside {ls : List Text} (h : Inert s ls) (hne : ls ≠ []) : s.comment = .outside := by
  cases h with
  | nil => exact absurd rfl hne
  | remark hout | comment hout => exact hout

theorem step_opens_plain (scopes : ScopeList) (number : Nat) (hout : s.comment = .outside)
    (hline : "/*".toList <+: trim line) (hopens : opens line = false) :
    s.step scopes number line =
      ({ s with comment := if closes 2 line then .outside else .plain, pendingDoc := [] },
        .comment) := by
  have hreads : Reads scopes number s (trim line) _ _ := .opening hout hline
  have hplain : State.opensDoc (trim line) = false := hopens
  rw [hreads.step_eq]
  unfold State.openComment
  rw [hplain]
  rfl

theorem step_inside_plain (scopes : ScopeList) (number : Nat) (hplain : s.comment = .plain)
    (line : Text) :
    s.step scopes number line =
      ({ s with comment := if closes 0 line then .outside else .plain }, .comment) := by
  have hreads : Reads scopes number s (trim line) _ _ :=
    .comment (by rw [hplain]; exact Comment.noConfusion)
  rw [hreads.step_eq]
  unfold State.continueComment
  rw [hplain]
  rfl

/-- The inside of a plain block comment changes nothing. -/
theorem run_inside_plain (scopes : ScopeList) (number : Nat) (hplain : s.comment = .plain)
    {inner : List Text} (hinner : ∀ line ∈ inner, closes 0 line = false) :
    State.after scopes s number inner = s ∧
      ofOutcomes (outcomes scopes s number inner) = ⟨[], 0⟩ := by
  induction inner generalizing number with
  | nil => exact ⟨rfl, rfl⟩
  | cons line inner ih =>
    obtain ⟨hline, hinner⟩ := List.forall_mem_cons.1 hinner
    have hstep : s.step scopes number line = (s, .comment) := by
      rw [step_inside_plain scopes number hplain line, hline]
      simp [← hplain]
    simp only [State.after, outcomes, hstep]
    exact ih (number + 1) hinner

/-- A plain block comment drops the doc lines that wait and changes nothing else. -/
theorem run_plainComment {block : List Text} (h : IsPlainComment block) (hout : s.comment = .outside)
    (scopes : ScopeList) (number : Nat) :
    State.after scopes s number block = { s with pendingDoc := [] } ∧
      ofOutcomes (outcomes scopes s number block) = ⟨[], 0⟩ := by
  cases h with
  | @single line hline hopens hcloses =>
    simp only [State.after, outcomes, step_opens_plain scopes number hout hline hopens, hcloses, ← hout,
      if_true, true_and]
    rfl
  | @more first last inner hline hopens hcloses hinner hlast =>
    have hopened := step_opens_plain scopes number hout hline hopens
    rw [hcloses, if_neg Bool.false_ne_true] at hopened
    have hinside := run_inside_plain (s := { s with comment := .plain, pendingDoc := [] }) scopes (number + 1)
      rfl hinner
    simp only [State.after, outcomes, hopened, after_append, outcomes_append, hinside.1]
    rw [step_inside_plain _ _ rfl, hlast, ← hout]
    refine ⟨rfl, ?_⟩
    change ofOutcomes (_ ++ [Outcome.comment]) = _
    rw [ofOutcomes_quiet_append hinside.2]
    rfl

/-! ## Two readings side by side -/

/-- The state `t` is `s`, or `s` without doc lines that hold no text. -/
def Forgets (s t : State) : Prop :=
  ∃ doc, t = { s with pendingDoc := doc } ∧
    (doc = s.pendingDoc ∨ doc = [] ∧ s.comment = .outside ∧ ofLines? s.pendingDoc = none)

theorem Forgets.refl (s : State) : Forgets s s :=
  ⟨s.pendingDoc, rfl, .inl rfl⟩

theorem Forgets.comment_eq (h : Forgets s t) : t.comment = s.comment := by
  obtain ⟨doc, rfl, -⟩ := h
  rfl

/-- A line in both sources keeps the states the same but for empty doc lines, and has the same outcome. -/
theorem forgets_step (h : Forgets s t) (scopes : ScopeList) (number : Nat) (shift : Nat → Nat)
    (line : Text) :
    Forgets (s.step scopes number line).1 (t.step scopes (number + shift number) line).1 ∧
      (t.step scopes (number + shift number) line).2 = (s.step scopes number line).2.moved shift := by
  have hreads := step_reads scopes number s line
  generalize (s.step scopes number line).1 = s' at hreads ⊢
  generalize (s.step scopes number line).2 = outcome at hreads ⊢
  obtain ⟨doc, rfl, hdoc⟩ := h
  have hnone : ofLines? doc = ofLines? s.pendingDoc := by
    rcases hdoc with rfl | ⟨rfl, -, h⟩
    · rfl
    · rw [h]
      rfl
  suffices hsame : ∃ t', Reads scopes (number + shift number) { s with pendingDoc := doc } (trim line) t'
      (outcome.moved shift) ∧ Forgets s' t' by
    obtain ⟨t', ht, hforgets⟩ := hsame
    rw [ht.step_eq]
    exact ⟨hforgets, rfl⟩
  cases hreads with
  | comment hin =>
    rcases hdoc with rfl | ⟨-, hout, -⟩
    · exact ⟨_, .comment hin, .refl _⟩
    · exact absurd hout hin
  | blank hout hremark => exact ⟨_, .blank hout hremark, doc, rfl, hdoc⟩
  | opening hout hopen => exact ⟨_, .opening hout hopen, .refl _⟩
  | below hout hcode hlevel => exact ⟨_, .below hout hcode hlevel, doc, rfl, hdoc⟩
  | annotations hout hcode hlevel hann => exact ⟨_, .annotations hout hcode hlevel hann, doc, rfl, hdoc⟩
  | declared hout hcode hlevel hann hkept =>
    have hdeclare : State.declare { s with pendingDoc := doc } scopes (number + shift number) (trim line) =
        movedDown shift (s.declare scopes number (trim line)) := by
      unfold State.declare
      rw [hnone]
      rfl
    have hreads' : Reads scopes (number + shift number) { s with pendingDoc := doc } (trim line) _ _ :=
      .declared hout hcode hlevel hann hkept
    rw [hdeclare] at hreads'
    exact ⟨_, hreads', .refl _⟩
  | skipped hout hcode hlevel hann hkept => exact ⟨_, .skipped hout hcode hlevel hann hkept, .refl _⟩

/-- Lines that are inserted keep the states the same but for empty doc lines, and say nothing. -/
theorem forgets_inert {ls : List Text} (hls : Inert s ls) (h : Forgets s t) (scopes : ScopeList)
    (number : Nat) :
    Forgets s (State.after scopes t number ls) ∧
      ofOutcomes (outcomes scopes t number ls) = ⟨[], 0⟩ := by
  induction hls generalizing t number with
  | nil => exact ⟨h, rfl⟩
  | @remark line rest hout hremark _ ih =>
    have hstep : t.step scopes number line = (t, .blank) :=
      (Reads.blank (h.comment_eq.trans hout) hremark).step_eq
    simp only [State.after, outcomes, hstep]
    exact ih h (number + 1)
  | @comment block rest hout hnone hblock _ ih =>
    obtain ⟨doc, rfl, hdoc⟩ := h
    obtain ⟨hafter, hquiet⟩ :=
      run_plainComment (s := { s with pendingDoc := doc }) hblock hout scopes number
    obtain ⟨hforgets, hrest⟩ := ih ⟨[], rfl, .inr ⟨rfl, hout, hnone⟩⟩ (number + block.length)
    rw [after_append, outcomes_append, ofOutcomes_quiet_append hquiet, hafter]
    exact ⟨hforgets, hrest⟩

/-! ## Layouts -/

/-- A line in a new layout: the lines that are inserted above it, and how it is spelled now. -/
structure Row where
  above : List Text
  line : Text

/-- The pieces of a row. -/
def Row.pieces (row : Row) : List Text :=
  row.above ++ [row.line]

/-- How many lines are inserted above the line with this number. -/
def linesAbove (rows : List Row) (number : Nat) : Nat :=
  ((rows.take number).map (·.above.length)).sum

theorem linesAbove_cons_succ (row : Row) (rows : List Row) (number : Nat) :
    linesAbove (row :: rows) (number + 1) = row.above.length + linesAbove rows number := by
  simp [linesAbove]

/-- Reading the rows of a new layout yields what reading their lines does. The first row starts `offset`
lines further down than its line stood, and `shift` says how far each line has moved. -/
theorem forgets_rows {rows : List Row} {offset : Nat} {shift : Nat → Nat} (h : Forgets s t)
    (hshift : ∀ i < rows.length, shift (number + i) = offset + linesAbove rows (i + 1))
    (hrows : ∀ i row, rows[i]? = some row →
      Inert (State.after scopes s number ((rows.take i).map (·.line))) row.above) :
    let old := rows.map (·.line)
    let new := rows.flatMap Row.pieces
    Forgets (State.after scopes s number old) (State.after scopes t (number + offset) new) ∧
      ofOutcomes (outcomes scopes t (number + offset) new) =
        ofOutcomes ((outcomes scopes s number old).map (·.moved shift)) := by
  induction rows generalizing s t number offset with
  | nil => exact ⟨h, rfl⟩
  | cons row rows ih =>
    have hinert : Inert s row.above := hrows 0 row rfl
    obtain ⟨habove, hquiet⟩ := forgets_inert hinert h scopes (number + offset)
    have hfirst : shift number = offset + row.above.length := by
      simpa [linesAbove] using hshift 0 (Nat.zero_lt_succ _)
    have hlater (i : Nat) (hi : i < rows.length) :
        shift (number + 1 + i) = shift number + linesAbove rows (i + 1) := by
      have hnext := hshift (i + 1) (Nat.succ_lt_succ hi)
      rw [linesAbove_cons_succ] at hnext
      rw [Nat.add_assoc, Nat.add_comm 1 i, hnext, hfirst, Nat.add_assoc]
    obtain ⟨hline, houtcome⟩ := forgets_step habove scopes number shift row.line
    obtain ⟨hafter, hrest⟩ := ih hline hlater fun i later => hrows (i + 1) later
    have hnumber : number + offset + row.above.length = number + shift number := by
      rw [hfirst, Nat.add_assoc]
    simp only [List.flatMap_cons, Row.pieces, List.append_assoc, List.singleton_append, List.map_cons,
      after_append, outcomes_append, State.after, outcomes, hnumber]
    rw [Nat.add_right_comm] at hafter hrest
    refine ⟨hafter, ?_⟩
    rw [ofOutcomes_quiet_append hquiet, houtcome, ofOutcomes_cons, hrest, ← ofOutcomes_cons]

/-! ## Sources -/

/-- Nothing after the last line feed is read as nothing. -/
theorem run_empty_line (scopes : ScopeList) (s : State) (number : Nat) :
    ofOutcomes (outcomes scopes s number [[]]) = ⟨[], 0⟩ ∧
      (s.comment = .outside → State.after scopes s number [[]] = s) := by
  by_cases hout : s.comment = .outside
  · have hstep : s.step scopes number [] = (s, .blank) := (Reads.blank hout (.inl rfl)).step_eq
    simp only [State.after, outcomes, hstep, implies_true, and_true]
    rfl
  · have hstep : s.step scopes number [] = (_, .comment) := (Reads.comment hout).step_eq
    simp only [outcomes, hstep]
    exact ⟨rfl, fun h => absurd h hout⟩

/-- A source may be read piece by piece. -/
theorem ofSource_eq_pieces (scopes : ScopeList) (source : Text) :
    ofSource scopes source = ofOutcomes (outcomes scopes {} 1 (pieces source)) := by
  unfold ofSource
  rcases map_trim_pieces source with h | h
  · rw [(run_congr h scopes {} 1).2]
  · rw [(run_congr h scopes {} 1).2, outcomes_append, ofOutcomes_append_quiet (run_empty_line _ _ _).1]

theorem after_take_pieces {source : Text} {i : Nat} (hi : i < (pieces source).length) :
    State.after scopes {} 1 ((pieces source).take i) = State.afterLines scopes ((lines source).take i) := by
  refine (run_congr ?_ scopes {} 1).1
  rw [List.map_take, List.map_take]
  rcases map_trim_pieces source with h | h
  · rw [h]
  · have hlength := congrArg List.length h
    simp only [List.length_map, List.length_append, List.length_singleton] at hlength
    rw [h, List.map_append, List.take_append_of_le_length (by rw [List.length_map]; omega)]

theorem after_pieces {source : Text} (hout : (State.afterLines scopes (lines source)).comment = .outside) :
    State.after scopes {} 1 (pieces source) = State.afterLines scopes (lines source) := by
  rcases map_trim_pieces source with h | h
  · exact (run_congr h scopes {} 1).1
  · rw [(run_congr h scopes {} 1).1, after_append]
    exact (run_empty_line _ _ _).2 hout

/-- A source is laid out anew. Every piece is kept but for its outer blanks, a carriage return at its end
included, and inert lines are inserted above some of them and below the last. -/
structure Relaid (scopes : ScopeList) (source source' : Text) (rows : List Row) (below : List Text) :
    Prop where
  kept : rows.map (trim ·.line) = (pieces source).map trim
  pieces_eq : pieces source' = rows.flatMap Row.pieces ++ below
  above_inert : ∀ i row, rows[i]? = some row →
    Inert (State.afterLines scopes ((lines source).take i)) row.above
  below_inert : Inert (State.afterLines scopes (lines source)) below

/-- Layout and comment lines are inert: the outline of a source that is laid out anew is the old one, with
every declaration as many lines further down as are inserted above it. -/
theorem layout_inert {scopes : ScopeList} {source source' : Text} {rows : List Row} {below : List Text}
    (h : Relaid scopes source source' rows below) :
    ofSource scopes source' = (ofSource scopes source).moved (linesAbove rows) := by
  have hkept : (rows.map (·.line)).map trim = (pieces source).map trim := by
    rw [List.map_map]
    exact h.kept
  obtain ⟨hold_after, hold⟩ := run_congr hkept scopes {} 1
  have hrows (i : Nat) (row : Row) (hrow : rows[i]? = some row) :
      Inert (State.after scopes {} 1 ((rows.take i).map (·.line))) row.above := by
    have hi : i < (pieces source).length := by
      rw [← List.length_map trim, ← h.kept, List.length_map]
      exact (List.getElem?_eq_some_iff.1 hrow).1
    have htake : ((rows.take i).map (·.line)).map trim = ((pieces source).take i).map trim := by
      rw [List.map_take, List.map_take, hkept, List.map_take]
    rw [(run_congr htake scopes {} 1).1, after_take_pieces hi]
    exact h.above_inert i row hrow
  have hshift (i : Nat) (_ : i < rows.length) : linesAbove rows (1 + i) = 0 + linesAbove rows (i + 1) := by
    rw [Nat.zero_add, Nat.add_comm]
  obtain ⟨hafter, hnew⟩ := forgets_rows (.refl {}) hshift hrows
  have hbelow : ofOutcomes (outcomes scopes (State.after scopes {} 1 (rows.flatMap Row.pieces))
      (1 + (rows.flatMap Row.pieces).length) below) = ⟨[], 0⟩ := by
    by_cases hne : below = []
    · rw [hne]
      rfl
    · rw [hold_after, after_pieces (h.below_inert.outside hne)] at hafter
      exact (forgets_inert h.below_inert hafter scopes _).2
  rw [ofSource_eq_pieces scopes source', h.pieces_eq, outcomes_append, ofOutcomes_append_quiet hbelow, hnew,
    ofOutcomes_map_moved, hold, ← ofSource_eq_pieces]

/-- A class with a doc text, and a method with a doc comment that has none. In the new layout, lines end in
carriage returns and are indented otherwise, a line comment and a blank line stand below the doc text, and
block comments with code in them stand above and below the doc comment without text. -/
theorem layout_inert_comments :
    let scopes : ScopeList := ⟨["public".toList]⟩
    let source := "/** Doc. */\npublic class A \x7b\n  /** */\n  public void f() \x7b\n\x7d\n\x7d".toList
    let rows : List Row := [
      ⟨[], "/** Doc. */\r".toList⟩,
      ⟨["// note\r".toList, "\r".toList], "public class A \x7b\r".toList⟩,
      ⟨["/* public class B \x7b".toList, "\x7d\x7d */".toList], "/** */".toList⟩,
      ⟨["/* \x7d */".toList], "\tpublic void f() \x7b ".toList⟩,
      ⟨[], "\x7d".toList⟩,
      ⟨[], "\x7d".toList⟩]
    let source' := join ['\n'] (rows.flatMap Row.pieces)
    ofSource scopes source' = (ofSource scopes source).moved (linesAbove rows) ∧
      (ofSource scopes source').declarations.map (fun d => (d.lineNumber, d.docComment)) =
        [(4, some "Doc.".toList), (9, none)] := by
  intro scopes source rows source'
  have hstates : ∀ i < 4, (State.afterLines scopes ((lines source).take i)).comment = .outside ∧
      (2 ≤ i → ofLines? (State.afterLines scopes ((lines source).take i)).pendingDoc = none) := by
    decide +kernel
  refine ⟨@layout_inert scopes source source' rows [] ⟨?_, ?_, ?_, .nil⟩, ?_⟩
  · decide +kernel
  · decide +kernel
  · intro i row hrow
    obtain ⟨hlt, rfl⟩ := List.getElem?_eq_some_iff.1 hrow
    have hi : i < 6 := hlt
    interval_cases i
    · exact .nil
    · obtain ⟨hout, -⟩ := hstates 1 (by decide)
      refine .remark hout ?_ (.remark hout ?_ .nil) <;> decide +kernel
    · obtain ⟨hout, hdoc⟩ := hstates 2 (by decide)
      refine .comment hout (hdoc le_rfl) (@IsPlainComment.more _ _ [] ?_ ?_ ?_ ?_ ?_) .nil <;> decide +kernel
    · obtain ⟨hout, hdoc⟩ := hstates 3 (by decide)
      refine .comment hout (hdoc (by decide)) (.single ?_ ?_ ?_) .nil <;> decide +kernel
    · exact .nil
    · exact .nil
  · decide +kernel

end Outline

end ApexOutline
