import ApexOutline.Proofs.Outline.Accounting
import ApexOutline.Proofs.Outline.Alike
import ApexOutline.Proofs.Outline.DocAbove
import ApexOutline.Proofs.Text.Marks
/-!
# Behind the end of a comment

A line on which a block comment ends belongs to the comment as a whole. What stands behind the closing mark
is not read as code: no declaration is read there and no brace is counted (`step_closesComment`). It can only
get into the doc lines that wait, and these decide nothing but the doc texts and links of declarations
(`agreesButDoc_step`, `outcomes_agreesButDoc`). So the text behind a comment may stand on a line of its own
only if it declares nothing and leaves the state as it is (`behind_comment_unread`).
-/

namespace ApexOutline

open Text

/-- The declarations agree but for the doc text and its links. -/
structure Declaration.SameButDoc (d d' : Declaration) : Prop where
  kind : d'.kind = d.kind
  name : d'.name = d.name
  scope : d'.scope = d.scope
  lineNumber : d'.lineNumber = d.lineNumber
  signature : d'.signature = d.signature
  parent : d'.parent = d.parent

namespace Outline

variable {scopes : ScopeList} {number : Nat} {s t : State} {line r : Text}

/-! ## States that differ in doc lines -/

/-- The states agree but for the doc lines that wait. -/
structure State.AgreesButDoc (s t : State) : Prop where
  depth : t.depth = s.depth
  openTypes : t.openTypes = s.openTypes
  comment : t.comment = s.comment

theorem State.AgreesButDoc.symm (h : s.AgreesButDoc t) : t.AgreesButDoc s :=
  ⟨h.depth.symm, h.openTypes.symm, h.comment.symm⟩

theorem State.AgreesButDoc.trans {u : State} (h : s.AgreesButDoc t) (h' : t.AgreesButDoc u) :
    s.AgreesButDoc u :=
  ⟨h'.depth.trans h.depth, h'.openTypes.trans h.openTypes, h'.comment.trans h.comment⟩

theorem State.AgreesButDoc.eq (h : s.AgreesButDoc t) : t = { s with pendingDoc := t.pendingDoc } := by
  rw [← h.depth, ← h.openTypes, ← h.comment]

/-- Doc lines decide nothing about how a line is read but the doc text of its declaration. -/
theorem agreesButDoc_step (h : s.AgreesButDoc t) (scopes : ScopeList) (number : Nat) (line : Text) :
    (s.step scopes number line).1.AgreesButDoc (t.step scopes number line).1 ∧
      (s.step scopes number line).2.Related Declaration.SameButDoc (t.step scopes number line).2 := by
  have hreads := step_reads scopes number s line
  generalize (s.step scopes number line).1 = s' at hreads ⊢
  generalize (s.step scopes number line).2 = outcome at hreads ⊢
  rw [h.eq]
  generalize t.pendingDoc = doc
  suffices hsame : ∃ t' outcome', Reads scopes number { s with pendingDoc := doc } (trim line) t' outcome' ∧
      s'.AgreesButDoc t' ∧ outcome.Related Declaration.SameButDoc outcome' by
    obtain ⟨t', outcome', ht, hstates⟩ := hsame
    rw [ht.step_eq]
    exact hstates
  cases hreads with
  | comment hin => exact ⟨_, _, .comment hin, ⟨rfl, rfl, rfl⟩, .same rfl⟩
  | blank hout hremark => exact ⟨_, _, .blank hout hremark, ⟨rfl, rfl, rfl⟩, .same rfl⟩
  | opening hout hopen => exact ⟨_, _, .opening hout hopen, ⟨rfl, rfl, rfl⟩, .same rfl⟩
  | below hout hcode hlevel => exact ⟨_, _, .below hout hcode hlevel, ⟨rfl, rfl, rfl⟩, .same rfl⟩
  | annotations hout hcode hlevel hann =>
    exact ⟨_, _, .annotations hout hcode hlevel hann, ⟨rfl, rfl, rfl⟩, .same rfl⟩
  | declared hout hcode hlevel hann hkept =>
    exact ⟨_, _, .declared hout hcode hlevel hann hkept, ⟨rfl, rfl, rfl⟩,
      .declared ⟨rfl, rfl, rfl, rfl, rfl, rfl⟩⟩
  | skipped hout hcode hlevel hann hkept =>
    exact ⟨_, _, .skipped hout hcode hlevel hann hkept, ⟨rfl, rfl, rfl⟩, .same rfl⟩

theorem outcomes_agreesButDoc (h : s.AgreesButDoc t) (scopes : ScopeList) (number : Nat) (ls : List Text) :
    List.Forall₂ (Outcome.Related Declaration.SameButDoc) (outcomes scopes s number ls)
      (outcomes scopes t number ls) := by
  induction ls generalizing s t number with
  | nil => exact .nil
  | cons line ls ih =>
    obtain ⟨hnext, houtcome⟩ := agreesButDoc_step h scopes number line
    exact .cons houtcome (ih hnext (number + 1))

/-! ## Lines on which a comment ends -/

/-- In the state `s`, a block comment ends on the line. -/
def ClosesComment (s : State) (line : Text) : Prop :=
  (s.comment = .outside ∧ "/*".toList <+: trim line ∧ has "*/".toList ((trim line).drop 2) = true) ∨
    (s.comment ≠ .outside ∧ has "*/".toList (trim line) = true)

/-- The line is a part of the comment. Nothing on it changes the depth or the open types. -/
theorem step_closesComment (h : ClosesComment s line) (scopes : ScopeList) (number : Nat) :
    (s.step scopes number line).2 = .comment ∧
      ({ s with comment := .outside } : State).AgreesButDoc (s.step scopes number line).1 := by
  rcases h with ⟨hout, hopen, hcloses⟩ | ⟨hin, hcloses⟩
  · have hreads : Reads scopes number s (trim line) _ _ := .opening hout hopen
    rw [hreads.step_eq]
    refine ⟨rfl, rfl, rfl, ?_⟩
    unfold State.openComment
    simp only [hcloses, if_true]
  · have hreads : Reads scopes number s (trim line) _ _ := .comment hin
    rw [hreads.step_eq]
    refine ⟨rfl, rfl, rfl, ?_⟩
    unfold State.continueComment
    simp only [hcloses, if_true]

/-- In the state `s`, a block comment ends on the line and the text `r` stands behind it. -/
inductive EndsBefore (s : State) (line r : Text) : Prop
  -- The comment opens on the line.
  | whole (c : Text) : s.comment = .outside → trim line = "/*".toList ++ c ++ "*/".toList ++ r →
      ¬ "*/".toList <:+: c → EndsBefore s line r
  -- The comment opened on a line above.
  | rest (c : Text) : s.comment ≠ .outside → trim line = c ++ "*/".toList ++ r →
      ¬ "*/".toList <:+: c → EndsBefore s line r

theorem EndsBefore.closesComment (h : EndsBefore s line r) : ClosesComment s line := by
  cases h with
  | whole c hout hline _ =>
    have hdrop : (trim line).drop 2 = c ++ ("*/".toList ++ r) := by
      rw [hline]
      simp
    refine .inl ⟨hout, ?_, by rw [hdrop]; exact has_append _ _ _⟩
    rw [hline, List.append_assoc, List.append_assoc]
    exact List.prefix_append _ _
  | rest c hin hline _ =>
    refine .inr ⟨hin, ?_⟩
    rw [hline, List.append_assoc]
    exact has_append _ _ _

/-! ## The text by itself -/

/-- The second lines are the first ones with no block comment open at their end: the last line closes the one
that is. -/
inductive Closed (scopes : ScopeList) : List Text → List Text → Prop
  | outside {xs : List Text} : (State.afterLines scopes xs).comment = .outside → Closed scopes xs xs
  | inside {front : List Text} {last : Text} :
      (State.afterLines scopes (front ++ [last])).comment ≠ .outside →
      Closed scopes (front ++ [last]) (front ++ [last ++ "*/".toList])

theorem trim_append_closing (line : Text) : trim (line ++ "*/".toList) = trimStart line ++ "*/".toList :=
  trim_append_cons (by decide) line ['/']

theorem opening_append_closing (h : "/*".toList <+: trim line) :
    "/*".toList <+: trim (line ++ "*/".toList) ∧
      has "*/".toList ((trim (line ++ "*/".toList)).drop 2) = true := by
  obtain ⟨rest, hrest⟩ := h.trans (prefix_dropWhileEnd isBlank (trimStart line))
  have hline : trim (line ++ "*/".toList) = "/*".toList ++ (rest ++ ("*/".toList ++ [])) := by
    rw [trim_append_closing, List.append_nil, ← List.append_assoc, hrest]
  rw [hline]
  refine ⟨List.prefix_append _ _, ?_⟩
  rw [List.drop_left' (by decide)]
  exact has_append _ _ _

/-- A line that leaves a comment open closes it with the closing mark at its end, and changes nothing else. -/
theorem step_append_closing (scopes : ScopeList) (number : Nat)
    (h : (s.step scopes number line).1.comment ≠ .outside) :
    (s.step scopes number line).2 = .comment ∧ ClosesComment s (line ++ "*/".toList) ∧
      ({ (s.step scopes number line).1 with comment := .outside } : State).AgreesButDoc
        { s with comment := .outside } := by
  have hreads := step_reads scopes number s line
  generalize (s.step scopes number line).1 = s' at hreads h ⊢
  generalize (s.step scopes number line).2 = outcome at hreads ⊢
  cases hreads with
  | comment hin =>
    refine ⟨rfl, .inr ⟨hin, ?_⟩, ⟨rfl, rfl, rfl⟩⟩
    rw [trim_append_closing, ← List.append_nil "*/".toList]
    exact has_append _ _ _
  | opening hout hopen => exact ⟨rfl, .inl ⟨hout, opening_append_closing hopen⟩, ⟨rfl, rfl, rfl⟩⟩
  | blank hout | below hout | annotations hout | declared hout | skipped hout => exact absurd hout h

/-- Closing the comment above changes no outcome and leaves the same state outside of it. -/
theorem agreesButDoc_closed {xs xs' : List Text} (h : Closed scopes xs xs') :
    xs'.length = xs.length ∧
      ({ State.afterLines scopes xs with comment := .outside } : State).AgreesButDoc
        (State.afterLines scopes xs') ∧
      outcomes scopes {} 1 xs' = outcomes scopes {} 1 xs := by
  cases h with
  | outside hout => exact ⟨rfl, ⟨rfl, rfl, hout⟩, rfl⟩
  | @inside front last hin =>
    rw [afterLines_append] at hin
    obtain ⟨houtcome, hcloses, hagrees⟩ := step_append_closing scopes (1 + front.length) hin
    obtain ⟨houtcome', hagrees'⟩ := step_closesComment hcloses scopes (1 + front.length)
    refine ⟨by simp, ?_, ?_⟩
    · rw [afterLines_append, afterLines_append]
      exact hagrees.trans hagrees'
    · rw [outcomes_append, outcomes_append]
      congr 1
      change [((State.afterLines scopes front).step scopes (1 + front.length) _).2] =
        [((State.afterLines scopes front).step scopes (1 + front.length) _).2]
      rw [houtcome, houtcome']

/-! ## Sources -/

/-- The outcomes of a source, apart at one of its lines. -/
theorem outcomes_middle (scopes : ScopeList) (xs ys : List Text) (line : Text) :
    let next := (State.afterLines scopes xs).step scopes (1 + xs.length) line
    outcomes scopes {} 1 (xs ++ line :: ys) =
      outcomes scopes {} 1 xs ++ next.2 :: outcomes scopes next.1 (1 + xs.length + 1) ys := by
  rw [outcomes_append]
  rfl

theorem forall₂_refl_outcomes (os : List Outcome) :
    List.Forall₂ (Outcome.Related Declaration.SameButDoc) os os :=
  List.forall₂_same.2 fun o _ => .refl (fun _ => ⟨rfl, rfl, rfl, rfl, rfl, rfl⟩) o

/-- A line that declares nothing adds no declaration. -/
theorem declarations_middle {scopes : ScopeList} {source line : Text} {xs ys : List Text}
    (hsource : lines source = xs ++ line :: ys)
    (hnone : ((State.afterLines scopes xs).step scopes (1 + xs.length) line).2.declaration? = none) :
    let next := ((State.afterLines scopes xs).step scopes (1 + xs.length) line).1
    (ofSource scopes source).declarations =
      (ofOutcomes (outcomes scopes {} 1 xs)).declarations ++
        (ofOutcomes (outcomes scopes next (1 + xs.length + 1) ys)).declarations := by
  simp only [ofSource, hsource, outcomes_middle, ofOutcomes, List.filterMap_append, List.filterMap_cons,
    hnone]

/-- A declaration is read on the line that has its number. -/
theorem declared_of_lineNumber {scopes : ScopeList} {source line : Text} {xs ys : List Text} {d : Declaration}
    (hsource : lines source = xs ++ line :: ys) (hd : d ∈ (ofSource scopes source).declarations)
    (hnumber : d.lineNumber = 1 + xs.length) :
    ((State.afterLines scopes xs).step scopes (1 + xs.length) line).2 = .declared d := by
  obtain ⟨before, line', rest, hlines, hline⟩ := mem_declarations_iff.1 hd
  have hreads := step_reads scopes (1 + before.length) (State.after scopes {} 1 before) line'
  rw [hline] at hreads
  have hlength : before.length = xs.length := by
    have := hreads.lineNumber
    omega
  obtain ⟨rfl, hrest⟩ := List.append_inj (hlines.symm.trans hsource) hlength
  obtain ⟨rfl, -⟩ := List.cons.inj hrest
  exact hline

/-- What stands behind the end of a block comment is not read. The line on which the comment ends leaves the
depth and the open types as they are, and whatever stands behind the comment in its place, the outline is
the same but for doc texts. So it has the declarations of the source in which the text stands on that line
by itself, below the comment, when the text declares nothing there and leaves the state as it is; a
declaration in the text is lost, and no other stands on its line. -/
theorem behind_comment_unread {scopes : ScopeList} {source line r : Text} {xs ys : List Text}
    (hsource : lines source = xs ++ line :: ys) (h : EndsBefore (State.afterLines scopes xs) line r) :
    ({ State.afterLines scopes xs with comment := .outside } : State).AgreesButDoc
        (State.afterLines scopes (xs ++ [line])) ∧
      (∀ source' line' r', lines source' = xs ++ line' :: ys →
        EndsBefore (State.afterLines scopes xs) line' r' →
        (ofSource scopes source').skippedLines = (ofSource scopes source).skippedLines ∧
          List.Forall₂ Declaration.SameButDoc (ofSource scopes source).declarations
            (ofSource scopes source').declarations) ∧
      ∀ source' xs', Closed scopes xs xs' → lines source' = xs' ++ r :: ys →
        let before := State.afterLines scopes xs'
        let alone := before.step scopes (1 + xs'.length) r
        (before.AgreesButDoc alone.1 → alone.2.declaration? = none →
          List.Forall₂ Declaration.SameButDoc (ofSource scopes source).declarations
            (ofSource scopes source').declarations) ∧
        ∀ d, alone.2 = .declared d → d ∈ (ofSource scopes source').declarations ∧
          ∀ d' ∈ (ofSource scopes source).declarations, d'.lineNumber ≠ d.lineNumber := by
  obtain ⟨houtcome, hagrees⟩ := step_closesComment h.closesComment scopes (1 + xs.length)
  refine ⟨?_, ?_, ?_⟩
  · rw [afterLines_append]
    exact hagrees
  · intro source' line' r' hsource' h'
    obtain ⟨houtcome', hagrees'⟩ := step_closesComment h'.closesComment scopes (1 + xs.length)
    apply ofOutcomes_related
    rw [hsource, hsource', outcomes_middle, outcomes_middle]
    refine List.rel_append (forall₂_refl_outcomes _) (.cons ?_ ?_)
    · rw [houtcome, houtcome']
      exact .same rfl
    · exact outcomes_agreesButDoc (hagrees.symm.trans hagrees') scopes _ ys
  · intro source' xs' hclosed hsource' before alone
    obtain ⟨hlength, hbefore, houtcomes⟩ := agreesButDoc_closed hclosed
    refine ⟨fun hstate hnone => ?_, fun d hd => ⟨?_, fun d' hd' heq => ?_⟩⟩
    · have hnone' : ((State.afterLines scopes xs).step scopes (1 + xs.length) line).2.declaration? = none := by
        rw [houtcome]
        rfl
      have hstates := hagrees.symm.trans (hbefore.trans hstate)
      rw [← hlength] at hstates
      rw [declarations_middle hsource hnone', declarations_middle hsource' hnone, houtcomes, ← hlength]
      exact List.rel_append (ofOutcomes_related (forall₂_refl_outcomes _)).2
        (ofOutcomes_related (outcomes_agreesButDoc hstates scopes _ ys)).2
    · exact mem_declarations_iff.2 ⟨xs', r, ys, hsource', hd⟩
    · have hreads := step_reads scopes (1 + xs'.length) before r
      rw [hd] at hreads
      have hnumber : d'.lineNumber = 1 + xs.length := by rw [heq, hreads.lineNumber, hlength]
      have hdeclared := declared_of_lineNumber hsource hd' hnumber
      rw [houtcome] at hdeclared
      cases hdeclared

/-- A method behind a comment is lost with the brace of its body, so that the brace which closes the body
closes the class, and the next property has no parent. -/
theorem behind_comment_unread_method :
    let scopes : ScopeList := ⟨["public".toList]⟩
    let r := " public void f() \x7b".toList
    let line := "/* note */".toList ++ r
    let xs := ["public class A \x7b".toList]
    let source := "public class A \x7b\n/* note */ public void f() \x7b\n\x7d\npublic Integer z;\n\x7d\n".toList
    let source' := "public class A \x7b\n public void f() \x7b\n\x7d\npublic Integer z;\n\x7d\n".toList
    EndsBefore (State.afterLines scopes xs) line r ∧
      (∃ d ∈ (ofSource scopes source').declarations, d.name = some ['f'] ∧
        ∀ d' ∈ (ofSource scopes source).declarations, d'.lineNumber ≠ d.lineNumber) ∧
      (ofSource scopes source').declarations.map (·.parent) = [none, some ['A'], some ['A']] ∧
      (ofSource scopes source).declarations.map (·.parent) = [none, none] := by
  intro scopes r line xs source source'
  have hends : EndsBefore (State.afterLines scopes xs) line r :=
    .whole " note ".toList (by decide +kernel) (by decide +kernel) (by decide +kernel)
  have hsource : lines source = xs ++ line :: ["\x7d".toList, "public Integer z;".toList, "\x7d".toList] := by
    decide +kernel
  have hsource' : lines source' = xs ++ r :: ["\x7d".toList, "public Integer z;".toList, "\x7d".toList] := by
    decide +kernel
  have hclosed : Closed scopes xs xs := .outside (by decide +kernel)
  obtain ⟨-, -, halone⟩ := behind_comment_unread hsource hends
  obtain ⟨d, hd, hname⟩ : ∃ d, ((State.afterLines scopes xs).step scopes 2 r).2 = .declared d ∧
      d.name = some ['f'] := ⟨_, rfl, by decide +kernel⟩
  obtain ⟨hmem, hlost⟩ := (halone source' xs hclosed hsource').2 d hd
  exact ⟨hends, ⟨d, hmem, hname, hlost⟩, by decide +kernel, by decide +kernel⟩

end Outline

end ApexOutline
