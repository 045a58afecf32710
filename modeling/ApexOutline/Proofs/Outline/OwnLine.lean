import ApexOutline.Proofs.LeadingAnnotations
import ApexOutline.Proofs.Outline.Accounting
import ApexOutline.Proofs.Outline.Alike
import ApexOutline.Proofs.Outline.Append
import ApexOutline.Proofs.Text.Marks
/-!
# Annotations on lines of their own

An annotation in front of code is transparent: what dropping annotations leaves is what it leaves of the
code alone (`strip_append`), unless the code has used up the limit. So everything that is read off the line
is read off the code, and the braces are the same. An annotation on a line of its own leaves the state as it
is (`step_annotation`), so the annotation and the code may as well stand on two lines
(`annotations_transparent`): the code has the same outcome one line further down (`step_behind`).
-/

namespace ApexOutline

open Text

/-! ## Annotations and the text behind them -/

namespace Annotations

/-- At most `n` annotations open the text. -/
def AtMost (n : Nat) (t : Text) : Prop :=
  ∃ parts rest, Chain parts t rest ∧ parts.length ≤ n ∧ ¬ Opens rest

theorem atMost_iff {n : Nat} {t : Text} : AtMost n t ↔ after? (stripUpTo n t) = none := by
  rw [after?_eq_none_iff]
  constructor
  · rintro ⟨parts, rest, hchain, hlength, hend⟩
    rwa [hchain.stripUpTo_eq hlength fun _ => hend]
  · intro hend
    obtain ⟨parts, hchain, hlength, -⟩ := chain_stripUpTo n t
    exact ⟨parts, _, hchain, hlength, hend⟩

theorem AtMost.stripUpTo_succ {n : Nat} {t : Text} (h : AtMost n t) : stripUpTo (n + 1) t = stripUpTo n t := by
  obtain ⟨parts, rest, hchain, hlength, hend⟩ := h
  rw [hchain.stripUpTo_eq hlength fun _ => hend, hchain.stripUpTo_eq (by omega) fun _ => hend]

/-- Blanks behind a text open no annotation. -/
theorem AtMost.of_append_blanks {n : Nat} {t u : Text} (hu : ∀ c ∈ u, isBlank c) (h : AtMost n (t ++ u)) :
    AtMost n t := by
  have hdetached := detached_blanks hu
  have hnone : afterList? u = none := afterList?_of_closesNone hdetached.closesNone
  rw [atMost_iff] at h ⊢
  rw [← after?_trimStart, trimStart_stripUpTo_append hdetached.toApart n t fun _ => hnone, after?_trimStart,
    after?_append hdetached.toApart fun _ _ _ => hnone] at h
  exact Option.map_eq_none_iff.1 h

theorem IsArgumentList.head {t : Text} (h : IsArgumentList t) (u : Text) :
    ∀ c ∈ (t ++ u).head?, isWord c = false := by
  cases h with
  | @mk gap inside hgap _ =>
    cases gap with
    | nil =>
      rintro c ⟨⟩
      decide
    | cons b gap =>
      rintro c ⟨⟩
      exact isWord_of_isBlank (hgap b List.mem_cons_self)

/-- A text that starts with no parenthesis behind blanks starts with no argument list. -/
theorem IsArgumentList.not_prefix {t u gap : Text} (h : IsArgumentList t) (hgap : ∀ c ∈ gap, isBlank c)
    (hu : ∀ c ∈ u.head?, isBlank c = false ∧ c ≠ '(') (more : Text) : gap ++ u ≠ t ++ more := by
  intro heq
  cases h with
  | @mk gap' inside hgap' _ =>
    have hstart : trimStart (gap ++ u) = u := trimStart_eq_iff.2 ⟨gap, rfl, hgap, fun c hc => (hu c hc).1⟩
    have hlist : trimStart (gap' ++ '(' :: (inside ++ [')']) ++ more) = '(' :: (inside ++ [')'] ++ more) := by
      apply trimStart_eq_iff.2
      exact ⟨gap', by simp, hgap', by rintro c ⟨⟩; decide⟩
    rw [heq, hlist] at hstart
    exact (hu '(' (by rw [← hstart]; rfl)).2 rfl

namespace Annotation

@[simp] theorem text_ne_nil (a : Annotation) : a.text ≠ [] :=
  List.cons_ne_nil _ _

theorem isCode_append (a : Annotation) (t : Text) : Line.IsCode (a.text ++ t) :=
  ⟨List.cons_ne_nil _ _, by simp [text], by simp [text]⟩

/-- An annotation is dropped with the gap behind it, when neither an argument list nor a blank follows. -/
theorem after?_append (a : Annotation) {gap r : Text} (hgap : ∀ c ∈ gap, isBlank c)
    (hends : ∀ c ∈ (gap ++ r).head?, isWord c = false)
    (hr : ∀ c ∈ r.head?, isBlank c = false ∧ c ≠ '(') : after? (a.text ++ (gap ++ r)) = some r := by
  refine after?_eq_some_iff.2 ⟨⟨[], a, gap, by simp, hgap⟩, ⟨?_, ?_, fun c hc => (hr c hc).1⟩, ?_⟩
  · rcases a.isArgumentList with hnil | hlist
    · rwa [hnil]
    · exact hlist.head _
  · intro _ list more hlist
    exact hlist.not_prefix hgap hr more
  · simp [Part.text]

/-- An annotation alone is dropped whole. -/
theorem strip_text (a : Annotation) : strip a.text = [] := by
  have hafter : after? (a.text ++ ([] ++ [])) = some [] := a.after?_append (by simp) (by simp) (by simp)
  rw [List.append_nil, List.append_nil] at hafter
  unfold strip limit
  rw [stripUpTo, hafter]
  exact stripUpTo_of_after?_eq_none rfl 99

/-- The last character of an annotation belongs to its name or closes its arguments. -/
theorem trim_text (a : Annotation) : trim a.text = a.text := by
  obtain ⟨front, c, hc, htext⟩ : ∃ front c, isBlank c = false ∧ a.name ++ a.arguments = front ++ [c] := by
    rcases a.isArgumentList with hnil | hlist
    · refine ⟨a.name.dropLast, a.name.getLast a.name_ne_nil, ?_, ?_⟩
      · exact isBlank_of_isWord (a.isWord_name _ (List.getLast_mem a.name_ne_nil))
      · rw [hnil, List.append_nil, List.dropLast_append_getLast]
    · generalize a.arguments = list at hlist ⊢
      cases hlist with
      | @mk gap inside _ _ => exact ⟨a.name ++ (gap ++ '(' :: inside), ')', by decide, by simp⟩
  have hat : trim ([] ++ '@' :: (a.name ++ a.arguments)) = [] ++ '@' :: trimEnd (a.name ++ a.arguments) :=
    trim_append_cons (by decide) [] _
  unfold text
  rw [List.nil_append, List.nil_append] at hat
  rw [hat, htext, trimEnd_append_cons hc]
  rfl

end Annotation

/-- Code that may stand behind an annotation: it starts neither with a blank nor with a parenthesis nor with a
comment, and at most 99 annotations open it. -/
structure IsRemainder (r : Text) : Prop where
  isCode : Line.IsCode r
  head : ∀ c ∈ r.head?, isBlank c = false ∧ c ≠ '('
  atMost : AtMost 99 r

variable {gap r : Text}

/-- The annotation in front of code is dropped, and nothing else changes. -/
theorem strip_append (a : Annotation) (hgap : IsGap gap) (hr : IsRemainder r) :
    strip (a.text ++ (gap ++ r)) = strip r := by
  have hends : ∀ c ∈ (gap ++ r).head?, isWord c = false := by
    intro c hc
    exact isWord_of_isBlank (hgap.head r c hc)
  unfold strip limit
  rw [stripUpTo, a.after?_append hgap.2 hends hr.head, hr.atMost.stripUpTo_succ]

/-- Blanks at the end do not matter to code behind an annotation. -/
theorem IsRemainder.trim (hr : IsRemainder r) : IsRemainder (trim r) := by
  have hstart : trimStart r = r := trimStart_eq_iff.2 ⟨[], rfl, by simp, fun c hc => (hr.head c hc).1⟩
  obtain ⟨after, hafter, hblank⟩ := exists_trimEnd r
  have htrim : Text.trim r = trimEnd r := by rw [trim_eq, hstart]
  have hne : trimEnd r ≠ [] := by
    rw [← htrim, Ne, trim_eq_nil_iff, hstart]
    exact hr.isCode.1
  have hprefix : trimEnd r <+: r := ⟨after, hafter.symm⟩
  rw [htrim]
  refine ⟨⟨hne, ?_, ?_⟩, ?_, ?_⟩
  · intro h
    exact hr.isCode.2.1 (h.trans hprefix)
  · intro h
    exact hr.isCode.2.2 (h.trans hprefix)
  · intro c hc
    apply hr.head
    rw [hafter, List.head?_append, Option.mem_def.1 hc]
    rfl
  · apply AtMost.of_append_blanks hblank
    rw [← hafter]
    exact hr.atMost

/-- A character that no annotation contains occurs as often as in the code. -/
theorem count_append {b : Char} (hb : isAnnotationChar b = false) (a : Annotation) (hgap : IsGap gap)
    (hr : IsRemainder r) : (a.text ++ (gap ++ r)).count b = r.count b := by
  rw [← count_strip hb, strip_append a hgap hr, count_strip hb]

/-- Trimming a line drops the blanks at the end of the code. -/
theorem trim_append (a : Annotation) (hr : IsRemainder r) :
    Text.trim (a.text ++ (gap ++ r)) = a.text ++ (gap ++ Text.trim r) := by
  obtain ⟨c, r, rfl⟩ := List.exists_cons_of_ne_nil hr.isCode.1
  have hc : isBlank c = false := (hr.head c rfl).1
  have hat : trimStart (a.text ++ gap) = a.text ++ gap := @trimStart_blanks_at [] (by simp) _
  have hrest : Text.trim (c :: r) = c :: trimEnd r := trim_append_cons hc [] r
  rw [← List.append_assoc, trim_append_cons hc, hat, hrest, List.append_assoc]

end Annotations

namespace Outline

open Annotations

variable {scopes : ScopeList} {number : Nat} {s : State} {a : Annotation} {gap r : Text}

/-! ## The two lines -/

/-- An annotation on a line of its own leaves the state as it is. -/
theorem step_annotation (hout : s.comment = .outside) (hlevel : s.atMemberLevel = true) {line : Text}
    (hline : trim line = a.text) : s.step scopes number line = (s, .annotations) := by
  have hcode : Line.IsCode a.text := by simpa using a.isCode_append []
  have hann : Line.IsAnnotations a.text := by
    unfold Line.IsAnnotations
    rw [a.strip_text]
    rfl
  have hreads : Reads scopes number s (trim line) s .annotations := by
    rw [hline]
    exact .annotations hout hcode hlevel hann
  exact hreads.step_eq

/-- No annotation contains a brace, so the body stays open behind one as it does without. -/
theorem leavesBodyOpen_append (hgap : IsGap gap) (hr : IsRemainder r) :
    leavesBodyOpen (a.text ++ (gap ++ r)) = leavesBodyOpen r := by
  apply leavesBodyOpen_congr
  · rw [count_append (by decide) a hgap hr, count_append (by decide) a hgap hr]
  · rw [← List.count_pos_iff, count_append (by decide) a hgap hr, List.count_pos_iff]

theorem depthAfter_append (hgap : IsGap gap) (hr : IsRemainder r) (depth : Nat) :
    State.depthAfter depth (a.text ++ (gap ++ r)) = State.depthAfter depth r := by
  apply depthAfter_congr
  rw [count_append (by decide) a hgap hr, count_append (by decide) a hgap hr]

/-- Code behind an annotation leaves the state that it leaves alone, and has the same outcome but for the
signature. -/
theorem reads_behind {s' : State} {outcome : Outcome} (hgap : IsGap gap) (hr : IsRemainder r)
    (hout : s.comment = .outside) (h : Reads scopes number s (a.text ++ (gap ++ r)) s' outcome) :
    ∃ outcome', Reads scopes number s r s' outcome' ∧ outcome.Related (SameButText Eq) outcome' := by
  refine h.alike hout (a.isCode_append _) hr.isCode (depthAfter_append hgap hr _).symm (fun _ => ?_)
    fun _ _ => (leavesBodyOpen_append hgap hr).symm
  exact .of_strip_eq (fun _ => rfl) (by rw [strip_append a hgap hr]) scopes s.context

/-- A declaration when line `number` has been split into two: the one on that line has a new signature, and
all from there on stand one line further down. -/
def afterSplit (number : Nat) (signature : Text) (d : Declaration) : Declaration :=
  if d.lineNumber < number then d
  else if d.lineNumber = number then { d with lineNumber := number + 1, signature }
  else { d with lineNumber := d.lineNumber + 1 }

theorem afterSplit_of_lt {signature : Text} {d : Declaration} (h : d.lineNumber < number) :
    afterSplit number signature d = d :=
  if_pos h

theorem afterSplit_of_gt {signature : Text} {d : Declaration} (h : number < d.lineNumber) :
    afterSplit number signature d = movedDown (fun _ => 1) d := by
  unfold afterSplit
  rw [if_neg (by omega), if_neg (by omega)]
  rfl

/-- The declaration on the line that is split. -/
theorem afterSplit_of_sameButText {d d' : Declaration} (hnumber : d.lineNumber = number)
    (h : SameButText Eq d d') : afterSplit number d'.signature d = movedDown (fun _ => 1) d' := by
  unfold afterSplit
  rw [if_neg (by omega), if_pos hnumber, ← hnumber, ← h.lineNumber]
  simp only [movedDown, h.kind, h.scope, h.parent, h.docComment, h.links, ← h.name]

theorem Outcome.moved_of_declaration?_eq_none {o : Outcome} {shift : Nat → Nat} (h : o.declaration? = none) :
    o.moved shift = o := by
  cases o with
  | declared d => cases h
  | comment | blank | annotations | skipped => rfl

/-- Code behind an annotation leaves the state that it leaves on the next line, and has the same outcome there
but for the signature and the line number. -/
theorem step_behind (scopes : ScopeList) (number : Nat) (hgap : IsGap gap) (hr : IsRemainder r)
    (hout : s.comment = .outside) {line below : Text} (hline : trim line = a.text ++ (gap ++ trim r))
    (hbelow : trim below = trim r) :
    Forgets (s.step scopes number line).1 (s.step scopes (number + 1) below).1 ∧
      (s.step scopes number line).2.Related (fun d d' => afterSplit number (trim r) d = d')
        (s.step scopes (number + 1) below).2 := by
  have hreads := step_reads scopes number s line
  rw [hline] at hreads
  obtain ⟨outcome', hreads', hrelated⟩ := reads_behind hgap hr.trim hout hreads
  rw [← hbelow] at hreads'
  obtain ⟨hforgets, hmoved⟩ := forgets_step (.refl s) scopes number (fun _ => 1) below
  rw [hreads'.step_eq] at hforgets hmoved
  refine ⟨hforgets, ?_⟩
  rw [hmoved]
  generalize (s.step scopes number line).2 = outcome at hreads hrelated ⊢
  cases hrelated with
  | same hnone =>
    rw [Outcome.moved_of_declaration?_eq_none hnone]
    exact .same hnone
  | @declared d d' hsame =>
    have hsignature : d'.signature = trim r := by
      generalize (s.step scopes number line).1 = s' at hreads'
      cases hreads'
      exact hbelow
    rw [← hsignature]
    exact .declared (afterSplit_of_sameButText hreads.lineNumber hsame)

/-! ## Sources -/

/-- The declarations on some lines have the numbers of these lines. -/
theorem lineNumber_of_mem_outcomes {ls : List Text} {d : Declaration}
    (h : Outcome.declared d ∈ outcomes scopes s number ls) :
    number ≤ d.lineNumber ∧ d.lineNumber < number + ls.length := by
  obtain ⟨before, line, rest, rfl, hline⟩ := mem_outcomes_iff.1 h
  have hreads := step_reads scopes (number + before.length) (State.after scopes s number before) line
  rw [hline] at hreads
  rw [hreads.lineNumber, List.length_append, List.length_cons]
  omega

/-- The lines above the one that is split keep their declarations. -/
theorem related_above (scopes : ScopeList) (s : State) (number : Nat) (xs : List Text) (signature : Text) :
    List.Forall₂ (Outcome.Related fun d d' => afterSplit (number + xs.length) signature d = d')
      (outcomes scopes s number xs) (outcomes scopes s number xs) := by
  refine List.forall₂_same.2 fun o ho => ?_
  cases o with
  | declared d => exact .declared (afterSplit_of_lt (lineNumber_of_mem_outcomes ho).2)
  | comment | blank | annotations | skipped => exact .same rfl

/-- The lines below it keep theirs, one line further down. -/
theorem related_below {t : State} (h : Forgets s t) (scopes : ScopeList) (number : Nat) (ys : List Text)
    (signature : Text) :
    List.Forall₂ (Outcome.Related fun d d' => afterSplit number signature d = d')
      (outcomes scopes s (number + 1) ys) (outcomes scopes t (number + 1 + 1) ys) := by
  rw [outcomes_of_forgets h, List.forall₂_map_right_iff, List.forall₂_same]
  intro o ho
  cases o with
  | declared d => exact .declared (afterSplit_of_gt (lineNumber_of_mem_outcomes ho).1)
  | comment | blank | annotations | skipped => exact .same rfl

theorem ofOutcomes_annotations (os os' : List Outcome) :
    ofOutcomes (os ++ .annotations :: os') = ofOutcomes (os ++ os') := by
  rw [ofOutcomes_append, ofOutcomes_append, ofOutcomes_cons]
  simp [ofOutcomes, Outcome.declaration?]

/-- Splitting a line moves down the declarations from there on and gives the one on it a new signature. -/
theorem ofOutcomes_split {xs ys : List Text} {line above below : Text} (hgap : IsGap gap) (hr : IsRemainder r)
    (hout : (State.after scopes s number xs).comment = .outside)
    (hlevel : (State.after scopes s number xs).atMemberLevel = true)
    (hline : trim line = a.text ++ (gap ++ trim r)) (habove : trim above = a.text)
    (hbelow : trim below = trim r) :
    let old := ofOutcomes (outcomes scopes s number (xs ++ line :: ys))
    let new := ofOutcomes (outcomes scopes s number (xs ++ above :: below :: ys))
    new.declarations = old.declarations.map (afterSplit (number + xs.length) (trim r)) ∧
      new.skippedLines = old.skippedLines := by
  intro old new
  obtain ⟨hforgets, hstep⟩ := step_behind scopes (number + xs.length) hgap hr hout hline hbelow
  have hrelated : List.Forall₂ (Outcome.Related fun d d' => afterSplit (number + xs.length) (trim r) d = d')
      (outcomes scopes s number (xs ++ line :: ys)) (outcomes scopes s number xs ++
        outcomes scopes (State.after scopes s number xs) (number + xs.length + 1) (below :: ys)) := by
    rw [outcomes_append]
    exact List.rel_append (related_above scopes s number xs _)
      (.cons hstep (related_below hforgets scopes _ ys _))
  have hnew : new = ofOutcomes (outcomes scopes s number xs ++
      outcomes scopes (State.after scopes s number xs) (number + xs.length + 1) (below :: ys)) := by
    change ofOutcomes (outcomes scopes s number (xs ++ above :: below :: ys)) = _
    rw [outcomes_append, outcomes, step_annotation hout hlevel habove, ofOutcomes_annotations]
  obtain ⟨hskipped, hdeclarations⟩ := ofOutcomes_related hrelated
  rw [← List.forall₂_map_left_iff, List.forall₂_eq_eq_eq] at hdeclarations
  rw [hnew]
  exact ⟨hdeclarations.symm, hskipped⟩

/-- The text is a whole line between the two others, without the line feed that may end it. -/
structure IsLine (front line back : Text) : Prop where
  front : EndsLine front
  line : '\n' ∉ line
  back : ∀ c ∈ back.head?, c = '\n'

theorem lines_cons {line : Text} (hne : line ≠ []) (hline : '\n' ∉ line) (back : Text)
    (hback : ∀ c ∈ back.head?, c = '\n') :
    ∃ l, lines (line ++ back) = l :: lines (back.drop 1) ∧ trim l = trim line := by
  have hpieces : line.splitOnP (· == '\n') = [line] := by
    apply List.splitOnP_eq_singleton
    intro c hc
    exact beq_eq_false_iff_ne.2 fun heq => hline (heq ▸ hc)
  cases back with
  | nil =>
    refine ⟨line, ?_, rfl⟩
    rw [List.append_nil, lines, hpieces]
    simp [hne, lines_nil]
  | cons c back =>
    obtain rfl := hback c rfl
    refine ⟨dropReturn line, ?_, trim_dropReturn line⟩
    rw [lines_append_newline, pieces, hpieces]
    rfl

/-- Splitting a line of a source, whatever blanks end the one part and start the other. -/
theorem ofSource_split {scopes : ScopeList} {front back indent ending indent' : Text} (hgap : IsGap gap)
    (hr : IsRemainder r) (hat : IsLine front (indent ++ (a.text ++ (gap ++ r))) back)
    (hindent : ∀ c ∈ indent, isBlank c) (hending : ∀ c ∈ ending, isBlank c ∧ c ≠ '\n')
    (hindent' : ∀ c ∈ indent', isBlank c ∧ c ≠ '\n')
    (hout : (State.afterLines scopes (lines front)).comment = .outside)
    (hlevel : (State.afterLines scopes (lines front)).atMemberLevel = true) :
    let old := ofSource scopes (front ++ (indent ++ (a.text ++ (gap ++ r)) ++ back))
    let new := ofSource scopes (front ++ (indent ++ (a.text ++ ending) ++ '\n' :: (indent' ++ r ++ back)))
    new.declarations = old.declarations.map (afterSplit (1 + (lines front).length) (trim r)) ∧
      new.skippedLines = old.skippedLines := by
  have hline := hat.line
  simp only [List.mem_append, not_or] at hline
  obtain ⟨hnindent, hntext, -, hnr⟩ := hline
  have hnabove : '\n' ∉ indent ++ (a.text ++ ending) := by
    simp only [List.mem_append, not_or]
    exact ⟨hnindent, hntext, fun h => (hending _ h).2 rfl⟩
  have hnbelow : '\n' ∉ indent' ++ r := by
    rw [List.mem_append, not_or]
    exact ⟨fun h => (hindent' _ h).2 rfl, hnr⟩
  obtain ⟨l, hold, hl⟩ := lines_cons (by simp) hat.line back hat.back
  obtain ⟨above, hnew, habove⟩ :=
    lines_cons (by simp) hnabove ('\n' :: (indent' ++ r ++ back)) (by simp)
  obtain ⟨below, hrest, hbelow⟩ := lines_cons (by simp [hr.isCode.1]) hnbelow back hat.back
  rw [trim_blanks_append hindent, trim_append a hr] at hl
  rw [trim_blanks_append hindent, trim_append_blanks _ fun c hc => (hending c hc).1, a.trim_text] at habove
  rw [trim_blanks_append fun c hc => (hindent' c hc).1] at hbelow
  rw [List.drop_one, List.tail_cons, hrest] at hnew
  unfold ofSource
  rw [lines_append hat.front, lines_append hat.front, hold, hnew]
  exact ofOutcomes_split hgap hr hout hlevel hl habove hbelow

/-- Annotations are transparent. Everything that is read off a line is read off the code behind the first
annotation. In a source, the annotation may as well stand on a line of its own: the same lines are skipped,
and the declarations are the same except for the signature on that line and for line numbers, which grow by
one from there on. -/
theorem annotations_transparent (a : Annotation) {gap r : Text} (hgap : IsGap gap) (hr : IsRemainder r) :
    let line := a.text ++ (gap ++ r)
    (∀ scopes context enclosing,
      Scope.ofLine? line scopes = Scope.ofLine? r scopes ∧
        TypeHeader.ofLine? line = TypeHeader.ofLine? r ∧
        opensEnum line = opensEnum r ∧
        Line.isKept line scopes context = Line.isKept r scopes context ∧
        Declaration.kindAndName line enclosing = Declaration.kindAndName r enclosing) ∧
      ∀ scopes front back indent, IsLine front (indent ++ line) back → (∀ c ∈ indent, isBlank c) →
        (State.afterLines scopes (lines front)).comment = .outside →
        (State.afterLines scopes (lines front)).atMemberLevel = true →
        ∀ ending indent', (∀ c ∈ ending, isBlank c ∧ c ≠ '\n') →
          (∀ c ∈ indent', isBlank c ∧ c ≠ '\n') →
          let old := ofSource scopes (front ++ (indent ++ line ++ back))
          let new := ofSource scopes
            (front ++ (indent ++ (a.text ++ ending) ++ '\n' :: (indent' ++ r ++ back)))
          new.declarations = old.declarations.map (afterSplit (1 + (lines front).length) (trim r)) ∧
            new.skippedLines = old.skippedLines := by
  intro line
  have hstrip : strip line = strip r := strip_append a hgap hr
  refine ⟨fun scopes context enclosing => ?_, ?_⟩
  · have halike : ReadAlike Eq scopes context r line := .of_strip_eq (fun _ => rfl) (by rw [hstrip]) _ _
    refine ⟨halike.scope, halike.header, ?_, halike.kept, kindAndName_congr (by rw [hstrip]) enclosing⟩
    unfold opensEnum
    rw [hstrip]
  · intro scopes front back indent hat hindent hout hlevel ending indent' hending hindent'
    exact ofSource_split hgap hr hat hindent hending hindent' hout hlevel

/-- The doc text above the line waits over the annotation, and another annotation stays with the code. -/
theorem annotations_transparent_method :
    let scopes : ScopeList := ⟨["public".toList]⟩
    let front := "public class A \x7b\n  /** Runs. */\n".toList
    let back := "\n  \x7d\n  public Integer n;\n\x7d\n".toList
    let r := "@TestVisible public void run() \x7b".toList
    let old := ofSource scopes (front ++ ("  @Future(callout=true) ".toList ++ r ++ back))
    let new := ofSource scopes (front ++ ("  @Future(callout=true)\r\n\t".toList ++ r ++ back))
    old.declarations.map (·.lineNumber) = [1, 3, 5] ∧
      new.declarations = old.declarations.map (afterSplit 3 r) ∧
      new.skippedLines = old.skippedLines ∧
      new.declarations.map (fun d => (d.lineNumber, d.docComment)) =
        [(1, none), (4, some "Runs.".toList), (6, none)] := by
  intro scopes front back r old new
  let a : Annotation :=
    ⟨"Future".toList, "(callout=true)".toList, by decide, List.all_eq_true.1 (by decide),
      .inr (@IsArgumentList.mk [] "callout=true".toList (List.all_eq_true.1 (by decide))
        (List.all_eq_true.1 (by decide)))⟩
  have hr : IsRemainder r := ⟨by decide, by rintro c ⟨⟩; decide, atMost_iff.2 (by decide)⟩
  have hat : IsLine front ("  ".toList ++ (a.text ++ (" ".toList ++ r))) back :=
    ⟨.inr (by decide), by decide, by rintro c ⟨⟩; rfl⟩
  have hgap : IsGap " ".toList := by decide
  have hsplit := (annotations_transparent a hgap hr).2 scopes front back "  ".toList hat
    (List.all_eq_true.1 (by decide)) (by decide +kernel) (by decide +kernel) ['\r'] ['\t']
    (List.forall_mem_singleton.2 (by decide)) (List.forall_mem_singleton.2 (by decide))
  exact ⟨by decide +kernel, hsplit.1, hsplit.2, by decide +kernel⟩

end Outline

end ApexOutline
