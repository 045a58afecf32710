import ApexOutline.Proofs.Declaration
import ApexOutline.Proofs.Outline.Reading
/-!
# Every line is accounted for

A line is part of a block comment, a remark, a line of annotations, skipped, or a declaration.
`every_line_accounted` says that the numbers of these five kinds of lines together are the numbers of
all lines, each of them once, so nothing is lost and nothing counted twice; it also ties what a
declaration says back to the text of its line. The kinds are told by the state before the line and by
its text (`Reads`), and a run is followed through the list of its outcomes (`numbersOf`).
-/

namespace ApexOutline

open Text

theorem DocComment.of_mem_links {doc link : Text} (h : link ∈ links doc) :
    isUrl link = true ∧ link <:+: doc := by
  obtain ⟨hmem, hurl⟩ := List.mem_filter.1 h
  obtain ⟨word, hword, rfl⟩ := List.mem_map.1 hmem
  exact ⟨hurl, (infix_dropAround _ word).trans (infix_of_mem_words hword)⟩

namespace Outline

/-! ## Kinds of lines -/

namespace State

/-- The line is part of a block comment: it starts inside one, or it opens one. -/
def InComment (s : State) (line : Text) : Prop :=
  s.comment ≠ .outside ∨ "/*".toList <+: line

/-- The line is a remark outside block comments. -/
def AtRemark (s : State) (line : Text) : Prop :=
  s.comment = .outside ∧ Line.IsRemark line

/-- The line holds annotations only and stands at member level. -/
def AtAnnotations (s : State) (line : Text) : Prop :=
  s.comment = .outside ∧ Line.IsCode line ∧ s.atMemberLevel = true ∧ Line.IsAnnotations line

/-- The line is code that declares nothing: it stands below member level, or it is not kept. -/
def AtSkipped (scopes : ScopeList) (s : State) (line : Text) : Prop :=
  s.comment = .outside ∧ Line.IsCode line ∧
    (s.atMemberLevel = true → ¬ Line.IsAnnotations line ∧ Line.isKept line scopes s.context = false)

instance (s : State) (line : Text) : Decidable (s.InComment line) :=
  inferInstanceAs (Decidable (_ ∨ _))

instance (s : State) (line : Text) : Decidable (s.AtRemark line) :=
  inferInstanceAs (Decidable (_ ∧ _))

instance (s : State) (line : Text) : Decidable (s.AtAnnotations line) :=
  inferInstanceAs (Decidable (_ ∧ _ ∧ _ ∧ _))

instance (scopes : ScopeList) (s : State) (line : Text) : Decidable (s.AtSkipped scopes line) :=
  inferInstanceAs (Decidable (_ ∧ _ ∧ (_ → _)))

end State

/-- The numbers of the lines, read one after the other from the state `s`, for which `p` holds of the
state before the line and of the line without its outer blanks. -/
def numbersWhere (p : State → Text → Prop) [∀ s line, Decidable (p s line)] (scopes : ScopeList)
    (s : State) (number : Nat) : List Text → List Nat
  | [] => []
  | line :: rest =>
    (if p s (trim line) then [number] else []) ++
      numbersWhere p scopes (s.step scopes number line).1 (number + 1) rest

/-- The numbers of the outcomes for which `q` holds, the first of which has the given number. -/
def numbersOf (q : Outcome → Bool) (number : Nat) : List Outcome → List Nat
  | [] => []
  | o :: os => (if q o then [number] else []) ++ numbersOf q (number + 1) os

/-- Whether an outcome is a declaration. -/
def Outcome.isDeclared (o : Outcome) : Bool :=
  o.declaration?.isSome

variable {scopes : ScopeList} {number : Nat} {s s' : State} {line : Text} {outcome : Outcome}

/-! ## One line -/

theorem not_isRemark_of_opening (h : "/*".toList <+: line) : ¬ Line.IsRemark line := by
  obtain ⟨rest, rfl⟩ := h
  rintro (h | ⟨_, h⟩) <;> cases h

theorem Reads.inComment_iff (h : Reads scopes number s line s' outcome) :
    s.InComment line ↔ (outcome == .comment) = true := by
  cases h with
  | comment h => exact iff_of_true (.inl h) rfl
  | opening hout h => exact iff_of_true (.inr h) rfl
  | blank hout h =>
    refine iff_of_false ?_ Bool.false_ne_true
    rintro (hin | hopening)
    · exact hin hout
    · exact not_isRemark_of_opening hopening h
  | below hout hcode | annotations hout hcode | skipped hout hcode | declared hout hcode =>
    refine iff_of_false ?_ Bool.false_ne_true
    rintro (hin | hopening)
    · exact hin hout
    · exact hcode.2.2 hopening

theorem Reads.atRemark_iff (h : Reads scopes number s line s' outcome) :
    s.AtRemark line ↔ (outcome == .blank) = true := by
  cases h with
  | comment h => exact iff_of_false (fun hremark => h hremark.1) Bool.false_ne_true
  | blank hout h => exact iff_of_true ⟨hout, h⟩ rfl
  | opening hout h =>
    exact iff_of_false (fun hremark => not_isRemark_of_opening h hremark.2) Bool.false_ne_true
  | below hout hcode | annotations hout hcode | skipped hout hcode | declared hout hcode =>
    exact iff_of_false (fun hremark => (Line.isCode_iff.1 hcode).1 hremark.2) Bool.false_ne_true

theorem Reads.atAnnotations_iff (h : Reads scopes number s line s' outcome) :
    s.AtAnnotations line ↔ (outcome == .annotations) = true := by
  cases h with
  | comment h => exact iff_of_false (fun hann => h hann.1) Bool.false_ne_true
  | blank hout h =>
    exact iff_of_false (fun hann => (Line.isCode_iff.1 hann.2.1).1 h) Bool.false_ne_true
  | opening hout h => exact iff_of_false (fun hann => hann.2.1.2.2 h) Bool.false_ne_true
  | below hout hcode h =>
    exact iff_of_false (fun hann => by rw [hann.2.2.1] at h; cases h) Bool.false_ne_true
  | annotations hout hcode h hann => exact iff_of_true ⟨hout, hcode, h, hann⟩ rfl
  | declared hout hcode h hnot | skipped hout hcode h hnot =>
    exact iff_of_false (fun hann => hnot hann.2.2.2) Bool.false_ne_true

theorem Reads.atSkipped_iff (h : Reads scopes number s line s' outcome) :
    s.AtSkipped scopes line ↔ (outcome == .skipped) = true := by
  cases h with
  | comment h => exact iff_of_false (fun hskip => h hskip.1) Bool.false_ne_true
  | blank hout h =>
    exact iff_of_false (fun hskip => (Line.isCode_iff.1 hskip.2.1).1 h) Bool.false_ne_true
  | opening hout h => exact iff_of_false (fun hskip => hskip.2.1.2.2 h) Bool.false_ne_true
  | below hout hcode h =>
    exact iff_of_true ⟨hout, hcode, fun hlevel => by rw [hlevel] at h; cases h⟩ rfl
  | annotations hout hcode h hann =>
    exact iff_of_false (fun hskip => (hskip.2.2 h).1 hann) Bool.false_ne_true
  | declared hout hcode h hann hkept =>
    refine iff_of_false (fun hskip => ?_) Bool.false_ne_true
    rw [(hskip.2.2 h).2] at hkept
    cases hkept
  | skipped hout hcode h hann hkept => exact iff_of_true ⟨hout, hcode, fun _ => ⟨hann, hkept⟩⟩ rfl

theorem Reads.lineNumber {d : Declaration} (h : Reads scopes number s line s' (.declared d)) :
    d.lineNumber = number := by
  cases h
  rfl

/-! ## Runs -/

/-- A kind of line that can be told by the outcome can be followed through the outcomes. -/
theorem numbersWhere_eq {p : State → Text → Prop} [∀ s line, Decidable (p s line)]
    {q : Outcome → Bool}
    (h : ∀ number s line s' o, Reads scopes number s line s' o → (p s line ↔ q o = true))
    (s : State) (number : Nat) (ls : List Text) :
    numbersWhere p scopes s number ls = numbersOf q number (outcomes scopes s number ls) := by
  induction ls generalizing s number with
  | nil => rfl
  | cons line ls ih =>
    have hline := h _ _ _ _ _ (step_reads scopes number s line)
    simp only [numbersWhere, outcomes, numbersOf, hline, ih]

theorem lineNumbers_eq (scopes : ScopeList) (s : State) (number : Nat) (ls : List Text) :
    ((outcomes scopes s number ls).filterMap Outcome.declaration?).map (·.lineNumber) =
      numbersOf Outcome.isDeclared number (outcomes scopes s number ls) := by
  induction ls generalizing s number with
  | nil => rfl
  | cons line ls ih =>
    have hreads := step_reads scopes number s line
    simp only [outcomes, numbersOf]
    generalize (s.step scopes number line).2 = o at hreads ⊢
    cases o with
    | declared d =>
      simp only [List.filterMap_cons, Outcome.declaration?, List.map_cons, ih, hreads.lineNumber]
      rfl
    | comment | blank | annotations | skipped => exact ih _ _

theorem numbersOf_sublist (q : Outcome → Bool) (number : Nat) (os : List Outcome) :
    (numbersOf q number os).Sublist (List.range' number os.length) := by
  induction os generalizing number with
  | nil => exact .slnil
  | cons o os ih =>
    rw [List.length_cons, List.range'_succ]
    unfold numbersOf
    split
    · exact (ih (number + 1)).cons_cons number
    · exact (ih (number + 1)).cons number

theorem length_numbersOf (q : Outcome → Bool) (number : Nat) (os : List Outcome) :
    (numbersOf q number os).length = os.countP q := by
  induction os generalizing number with
  | nil => rfl
  | cons o os ih =>
    unfold numbersOf
    rw [List.length_append, ih, List.countP_cons, Nat.add_comm]
    split <;> rfl

/-- The numbers of two kinds of outcomes that exclude each other. -/
theorem numbersOf_append_perm {q r : Outcome → Bool} (h : ∀ o, q o = true → r o = false) (number : Nat)
    (os : List Outcome) :
    (numbersOf q number os ++ numbersOf r number os).Perm
      (numbersOf (fun o => q o || r o) number os) := by
  induction os generalizing number with
  | nil => exact .nil
  | cons o os ih =>
    have hrest := ih (number + 1)
    by_cases hq : q o = true
    · simpa [numbersOf, hq, h o hq] using hrest
    by_cases hr : r o = true
    · simp only [numbersOf, hq, hr, Bool.or_true, if_true]
      exact List.perm_middle.trans (hrest.cons number)
    · simpa [numbersOf, hq, hr] using hrest

theorem numbersOf_eq_range {q : Outcome → Bool} (h : ∀ o, q o = true) (number : Nat)
    (os : List Outcome) : numbersOf q number os = List.range' number os.length := by
  induction os generalizing number with
  | nil => rfl
  | cons o os ih => simp [numbersOf, h o, ih, List.range'_succ]

/-- Every outcome is of one of the five kinds, and of no other. -/
theorem numbersOf_perm (number : Nat) (os : List Outcome) :
    (numbersOf (· == .comment) number os ++ numbersOf (· == .blank) number os ++
        numbersOf (· == .annotations) number os ++ numbersOf (· == .skipped) number os ++
        numbersOf Outcome.isDeclared number os).Perm (List.range' number os.length) := by
  have hone : (numbersOf (· == .comment) number os ++ numbersOf (· == .blank) number os).Perm _ :=
    numbersOf_append_perm (by rintro (_ | _) <;> simp) number os
  have htwo := (hone.append_right (numbersOf (· == .annotations) number os)).trans
    (numbersOf_append_perm (by rintro (_ | _) <;> simp) number os)
  have hthree := (htwo.append_right (numbersOf (· == .skipped) number os)).trans
    (numbersOf_append_perm (by rintro (_ | _) <;> simp) number os)
  have hfour := (hthree.append_right (numbersOf Outcome.isDeclared number os)).trans
    (numbersOf_append_perm (by rintro (_ | _) <;> simp [Outcome.isDeclared, Outcome.declaration?])
      number os)
  exact hfour.trans <| .of_eq <| numbersOf_eq_range
    (by rintro (_ | _) <;> simp [Outcome.isDeclared, Outcome.declaration?]) number os

theorem length_outcomes (scopes : ScopeList) (s : State) (number : Nat) (ls : List Text) :
    (outcomes scopes s number ls).length = ls.length := by
  induction ls generalizing s number with
  | nil => rfl
  | cons line ls ih => simp [outcomes, ih]

/-- The line numbers of the declarations increase. -/
theorem pairwise_lineNumber (scopes : ScopeList) (s : State) (number : Nat) (ls : List Text) :
    (((outcomes scopes s number ls).filterMap Outcome.declaration?).map (·.lineNumber)).Pairwise
      (· < ·) := by
  rw [lineNumbers_eq]
  exact (List.pairwise_lt_range' (s := number)).sublist (numbersOf_sublist _ _ _)

/-! ## Outlines -/

/-- What a declaration says is read off its line, and its links off its doc comment. -/
structure ReadOff (scopes : ScopeList) (ls : List Text) (d : Declaration) : Prop where
  first : 1 ≤ d.lineNumber
  last : d.lineNumber ≤ ls.length
  signature : (ls[d.lineNumber - 1]?).map trim = some d.signature
  signature_ne_nil : d.signature ≠ []
  scope : d.scope = Scope.ofLine? d.signature scopes
  name : ∀ name ∈ d.name, name ≠ [] ∧ name <:+: d.signature ∧ ' ' ∉ name
  links : ∀ link ∈ d.links, isUrl link = true ∧ ∃ doc ∈ d.docComment, link <:+: doc

theorem of_mem_links_declare {link : Text}
    (h : link ∈ (s.declare scopes number line).links) :
    isUrl link = true ∧ ∃ doc ∈ (s.declare scopes number line).docComment, link <:+: doc := by
  change link ∈ ((DocComment.ofLines? s.pendingDoc).map DocComment.links).getD [] at h
  change isUrl link = true ∧ ∃ doc ∈ DocComment.ofLines? s.pendingDoc, link <:+: doc
  cases hdoc : DocComment.ofLines? s.pendingDoc with
  | none =>
    rw [hdoc] at h
    cases h
  | some doc =>
    rw [hdoc] at h
    obtain ⟨hurl, hpart⟩ := DocComment.of_mem_links h
    exact ⟨hurl, doc, rfl, hpart⟩

theorem readOff_of_mem {source : Text} {d : Declaration}
    (h : d ∈ (ofSource scopes source).declarations) : ReadOff scopes (lines source) d := by
  obtain ⟨before, line, rest, hlines, hline⟩ := mem_declarations_iff.1 h
  have hreads := step_reads scopes (1 + before.length) (State.after scopes {} 1 before) line
  rw [hline] at hreads
  generalize State.after scopes {} 1 before = s at hreads
  generalize (s.step scopes (1 + before.length) line).1 = s' at hreads
  cases hreads with
  | declared hout hcode hlevel hann hkept =>
    refine
      { first := Nat.le_add_right 1 _
        last := ?_
        signature := ?_
        signature_ne_nil := hcode.1
        scope := rfl
        name := fun name hname => Declaration.name_of_kindAndName hname
        links := fun link hlink => of_mem_links_declare hlink }
    · change 1 + before.length ≤ (lines source).length
      rw [hlines, List.length_append, List.length_cons]
      omega
    · change ((lines source)[1 + before.length - 1]?).map trim = some (trim line)
      rw [hlines, Nat.add_sub_cancel_left, List.getElem?_append_right le_rfl, Nat.sub_self]
      rfl

/-- Every line is accounted for exactly once. The numbers of the lines in block comments, of the
remarks, of the lines of annotations, of the skipped lines and of the declarations together are the
numbers of all lines; so the declarations and the skipped lines are as many as the lines of no other
kind. The declarations stand in the order of their lines, and what they say is read off them. -/
theorem every_line_accounted (scopes : ScopeList) (source : Text) :
    let ls := lines source
    let outline := ofSource scopes source
    let comments := numbersWhere State.InComment scopes {} 1 ls
    let remarks := numbersWhere State.AtRemark scopes {} 1 ls
    let annotations := numbersWhere State.AtAnnotations scopes {} 1 ls
    let skipped := numbersWhere (State.AtSkipped scopes) scopes {} 1 ls
    let declared := outline.declarations.map (·.lineNumber)
    (comments ++ remarks ++ annotations ++ skipped ++ declared).Perm (List.range' 1 ls.length) ∧
      skipped.length = outline.skippedLines ∧
      (comments ++ remarks ++ annotations).length +
        (outline.declarations.length + outline.skippedLines) = ls.length ∧
      declared.Pairwise (· < ·) ∧
      ∀ d ∈ outline.declarations, ReadOff scopes ls d := by
  intro ls outline comments remarks annotations skipped declared
  have hcomments : comments = numbersOf (· == .comment) 1 (outcomes scopes {} 1 ls) :=
    numbersWhere_eq (fun _ _ _ _ _ h => h.inComment_iff) _ _ _
  have hremarks : remarks = numbersOf (· == .blank) 1 (outcomes scopes {} 1 ls) :=
    numbersWhere_eq (fun _ _ _ _ _ h => h.atRemark_iff) _ _ _
  have hannotations : annotations = numbersOf (· == .annotations) 1 (outcomes scopes {} 1 ls) :=
    numbersWhere_eq (fun _ _ _ _ _ h => h.atAnnotations_iff) _ _ _
  have hskipped : skipped = numbersOf (· == .skipped) 1 (outcomes scopes {} 1 ls) :=
    numbersWhere_eq (fun _ _ _ _ _ h => h.atSkipped_iff) _ _ _
  have hdeclared : declared = numbersOf Outcome.isDeclared 1 (outcomes scopes {} 1 ls) :=
    lineNumbers_eq scopes {} 1 ls
  have hperm := numbersOf_perm 1 (outcomes scopes {} 1 ls)
  rw [← hcomments, ← hremarks, ← hannotations, ← hskipped, ← hdeclared, length_outcomes] at hperm
  have hcount : skipped.length = outline.skippedLines := by
    rw [hskipped, length_numbersOf]
    rfl
  refine ⟨hperm, hcount, ?_, pairwise_lineNumber scopes {} 1 ls, fun d hd => readOff_of_mem hd⟩
  have hlength := hperm.length_eq
  rw [List.length_range', List.length_append, List.length_append, List.length_map, hcount] at hlength
  omega

/-- One line of each kind: a doc comment, a remark, annotations, a header, a skipped line, and the brace
that closes the body, which is skipped as well. -/
theorem every_line_accounted_kinds :
    let source := "/** See https://a.bc/d. */\n// note\n@IsTest\n".toList ++
      "public class A \x7b\nrun();\n\x7d\n".toList
    (ofSource .standard source).skippedLines = 2 ∧
      ∃ d ∈ (ofSource .standard source).declarations,
        d.lineNumber = 4 ∧ d.name = some ['A'] ∧ d.links = ["https://a.bc/d".toList] ∧
          ReadOff .standard (lines source) d := by
  intro source
  obtain ⟨d, hd, hline, hname, hlinks⟩ : ∃ d ∈ (ofSource .standard source).declarations,
      d.lineNumber = 4 ∧ d.name = some ['A'] ∧ d.links = ["https://a.bc/d".toList] := by
    decide +kernel
  have haccounted := every_line_accounted .standard source
  exact ⟨by decide +kernel, d, hd, hline, hname, hlinks, haccounted.2.2.2.2 d hd⟩

end Outline

end ApexOutline
