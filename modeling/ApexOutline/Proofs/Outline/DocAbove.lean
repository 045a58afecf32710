import ApexOutline.Proofs.Annotations
import ApexOutline.Proofs.Outline.Reading
/-!
# Where a doc text comes from

The doc text of a declaration was read off a doc comment above it. `History` says what the text that
waits after some lines comes from; `history_step` that each of the seven ways to read a line keeps it
true. Between the comment and the declaration stand only blank lines, line comments and annotations,
and code below member level, which does not drop the text that waits. So the comment stands directly
above the declaration exactly when it was opened at member level itself (`doc_origin`).
-/

namespace ApexOutline

open Text

namespace DocComment

/-- Whether a line opens a doc comment; blanks around the line do not count. -/
def opens (line : Text) : Bool :=
  Outline.State.opensDoc (trim line)

/-- Whether a line has the closing mark of a comment after its first `skipped` characters. -/
def closes (skipped : Nat) (line : Text) : Bool :=
  has "*/".toList ((trim line).drop skipped)

/-- The lines open a doc comment and do not close it. -/
inductive IsOpen : List Text → Prop
  | first {line : Text} : opens line = true → closes 2 line = false → IsOpen [line]
  | next {block : List Text} {line : Text} :
      IsOpen block → closes 0 line = false → IsOpen (block ++ [line])

/-- The lines are one doc comment. -/
inductive IsWhole : List Text → Prop
  -- On one line; the closing mark does not overlap the opening one.
  | single {line : Text} : opens line = true → closes 2 line = true → IsWhole [line]
  -- On more lines, the last of which is the first to close it.
  | last {block : List Text} {line : Text} :
      IsOpen block → closes 0 line = true → IsWhole (block ++ [line])

/-- The texts of the lines of a doc comment. -/
def texts : List Text → List Text
  | [] => []
  | first :: rest => lineText ((trim first).drop 3) :: rest.map (lineText <| trim ·)

theorem IsOpen.ne_nil {block : List Text} (h : IsOpen block) : block ≠ [] := by
  cases h <;> simp

theorem texts_append {block : List Text} (h : IsOpen block) (line : Text) :
    texts (block ++ [line]) = texts block ++ [lineText (trim line)] := by
  obtain ⟨first, rest, rfl⟩ := List.exists_cons_of_ne_nil h.ne_nil
  simp [texts]

end DocComment

/-- The line is blank, a line comment or holds annotations only. -/
def Line.IsInert (line : Text) : Prop :=
  IsRemark line ∨ IsAnnotations line

instance (line : Text) : Decidable (Line.IsInert line) :=
  inferInstanceAs (Decidable (_ ∨ _))

namespace Outline

open DocComment

variable {scopes : ScopeList} {number : Nat} {s s' : State} {line : Text} {outcome : Outcome}

/-! ## Inert lines -/

/-- No annotation starts with a slash, so a line that starts a block comment is not inert. -/
theorem not_isInert_of_opening (h : "/*".toList <+: line) : ¬ Line.IsInert line := by
  obtain ⟨rest, rfl⟩ := h
  rintro ((h | ⟨_, h⟩) | h)
  · cases h
  · cases h
  · have hstrip : Annotations.strip ("/*".toList ++ rest) = '/' :: '*' :: rest := rfl
    unfold Line.IsAnnotations at h
    rw [hstrip, trim_eq_nil_iff] at h
    cases h

/-- Annotations hold no braces. -/
theorem depthAfter_of_isAnnotations (h : Line.IsAnnotations line) (depth : Nat) :
    State.depthAfter depth line = depth := by
  have hcount (b : Char) (hb : Annotations.isAnnotationChar b = false) (hblank : isBlank b = false) :
      line.count b = 0 := by
    rw [← Annotations.count_strip hb line, ← count_trim hblank, h]
    rfl
  unfold State.depthAfter
  rw [hcount '{' (by decide) (by decide), hcount '}' (by decide) (by decide)]
  rfl

theorem atMemberLevel_applyBraces (h : s.atMemberLevel = false)
    (hdepth : State.depthAfter s.depth line = s.depth) : (s.applyBraces line).atMemberLevel = false := by
  unfold State.applyBraces
  rw [hdepth]
  obtain ⟨depth, openTypes, comment, pendingDoc⟩ := s
  cases openTypes with
  | nil => exact h
  | cons t rest =>
    have hbelow : t.bodyDepth < depth := by simpa [State.atMemberLevel] using h
    simp [State.atMemberLevel, State.stillOpen, hbelow.le, hbelow]

/-- An inert line outside comments does not change the level. -/
theorem step_inert (scopes : ScopeList) (number : Nat) (hout : s.comment = .outside)
    (h : Line.IsInert (trim line)) :
    (s.step scopes number line).1.comment = .outside ∧
      (s.step scopes number line).1.atMemberLevel = s.atMemberLevel := by
  have hreads := step_reads scopes number s line
  generalize (s.step scopes number line).1 = s' at hreads ⊢
  generalize (s.step scopes number line).2 = outcome at hreads
  cases hreads with
  | comment hin => exact absurd hout hin
  | blank | annotations => exact ⟨hout, rfl⟩
  | opening _ hopen => exact absurd h (not_isInert_of_opening hopen)
  | below _ hcode hlevel =>
    rcases h with h | h
    · exact absurd h (Line.isCode_iff.1 hcode).1
    · rw [hlevel]
      exact ⟨hout, atMemberLevel_applyBraces hlevel (depthAfter_of_isAnnotations h _)⟩
  | declared _ hcode _ hann | skipped _ hcode _ hann =>
    rcases h with h | h
    · exact absurd h (Line.isCode_iff.1 hcode).1
    · exact absurd h hann

/-! ## Doc comments -/

theorem opening_of_opens (h : opens line = true) : "/*".toList <+: trim line := by
  unfold opens State.opensDoc at h
  rw [Bool.and_eq_true, List.isPrefixOf_iff_prefix] at h
  exact List.IsPrefix.trans ⟨['*'], rfl⟩ h.1

theorem step_opens (scopes : ScopeList) (number : Nat) (hout : s.comment = .outside)
    (h : opens line = true) :
    (s.step scopes number line).1 =
      { s with comment := if closes 2 line then .outside else .doc, pendingDoc := texts [line] } := by
  have hreads : Reads scopes number s (trim line) _ _ := .opening hout (opening_of_opens h)
  have hdoc : State.opensDoc (trim line) = true := h
  rw [hreads.step_eq]
  unfold State.openComment
  rw [hdoc]
  rfl

theorem step_inside (scopes : ScopeList) (number : Nat) (hdoc : s.comment = .doc) (line : Text) :
    (s.step scopes number line).1 =
      { s with
        comment := if closes 0 line then .outside else .doc
        pendingDoc := s.pendingDoc ++ [lineText (trim line)] } := by
  have hreads : Reads scopes number s (trim line) _ _ := .comment (by rw [hdoc]; exact Comment.noConfusion)
  rw [hreads.step_eq]
  unfold State.continueComment
  rw [hdoc]
  rfl

/-- The lines that open a doc comment leave it open, and its texts wait. -/
theorem after_isOpen {block : List Text} (h : IsOpen block) (hout : s.comment = .outside) :
    State.after scopes s number block = { s with comment := .doc, pendingDoc := texts block } := by
  induction h with
  | @first line hopens hcloses =>
    change (s.step scopes number line).1 = _
    rw [step_opens scopes number hout hopens, hcloses]
    rfl
  | @next block line hblock hcloses ih =>
    rw [after_append, ih]
    change (State.step _ scopes _ line).1 = _
    rw [step_inside _ _ rfl, hcloses, texts_append hblock]
    rfl

/-- A whole doc comment leaves its texts waiting, and changes nothing else. -/
theorem after_isWhole {block : List Text} (h : IsWhole block) (hout : s.comment = .outside) :
    State.after scopes s number block = { s with pendingDoc := texts block } := by
  rw [show ({ s with pendingDoc := texts block } : State) =
    { s with comment := .outside, pendingDoc := texts block } by rw [← hout]]
  cases h with
  | @single line hopens hcloses =>
    change (s.step scopes number line).1 = _
    rw [step_opens scopes number hout hopens, hcloses]
    rfl
  | @last block line hblock hcloses =>
    rw [after_append, after_isOpen hblock hout]
    change (State.step _ scopes _ line).1 = _
    rw [step_inside _ _ rfl, hcloses, texts_append hblock]
    rfl

/-! ## The history of a doc text -/

/-- The state after the first lines of a source text. -/
def State.afterLines (scopes : ScopeList) (ls : List Text) : State :=
  State.after scopes {} 1 ls

theorem afterLines_append (scopes : ScopeList) (xs ys : List Text) :
    State.afterLines scopes (xs ++ ys) =
      State.after scopes (State.afterLines scopes xs) (1 + xs.length) ys :=
  after_append scopes {} 1 xs ys

/-- Every line in `between`, which stands after the lines `seen`, is inert or code below member
level. -/
def Passes (scopes : ScopeList) (seen between : List Text) : Prop :=
  ∀ earlier l later, between = earlier ++ l :: later →
    Line.IsInert (trim l) ∨
      Line.IsCode (trim l) ∧ (State.afterLines scopes (seen ++ earlier)).atMemberLevel = false

/-- What the doc text that waits in the state `s` after the lines `seen` comes from. -/
inductive History (scopes : ScopeList) (seen : List Text) (s : State) : Prop
  -- No doc comment is open, and no text waits.
  | nothing : s.comment ≠ .doc → s.pendingDoc = [] → History scopes seen s
  -- A doc comment is open.
  | inside {before block : List Text} : seen = before ++ block →
      (State.afterLines scopes before).comment = .outside → IsOpen block → History scopes seen s
  -- A doc comment is closed, and its texts have waited since.
  | waiting {before block between : List Text} : seen = before ++ block ++ between →
      (State.afterLines scopes before).comment = .outside → IsWhole block →
      Passes scopes (before ++ block) between →
      s.comment = .outside → s.pendingDoc = texts block → History scopes seen s

variable {seen : List Text}

theorem Passes.nil (scopes : ScopeList) (seen : List Text) : Passes scopes seen [] := by
  intro earlier l later h
  cases earlier <;> cases h

theorem Passes.tail {rest : List Text} (h : Passes scopes seen (line :: rest)) :
    Passes scopes (seen ++ [line]) rest := by
  rintro earlier l later rfl
  rw [List.append_assoc]
  exact h (line :: earlier) l later rfl

theorem Passes.snoc {between : List Text} (h : Passes scopes seen between)
    (hline : Line.IsInert (trim line) ∨
      Line.IsCode (trim line) ∧ (State.afterLines scopes (seen ++ between)).atMemberLevel = false) :
    Passes scopes seen (between ++ [line]) := by
  intro earlier l later heq
  rcases List.eq_nil_or_concat later with rfl | ⟨later, l', rfl⟩
  · obtain ⟨rfl, hl⟩ := List.append_inj' heq rfl
    cases hl
    exact hline
  · rw [List.concat_eq_append, ← List.cons_append, ← List.append_assoc] at heq
    exact h earlier l later (List.append_inj' heq rfl).1

/-- Between two places, the second of which is at member level, only inert lines stand exactly when the
first is at member level as well. -/
theorem Passes.all_inert_iff {between : List Text} (h : Passes scopes seen between)
    (hout : (State.afterLines scopes seen).comment = .outside)
    (hend : (State.afterLines scopes (seen ++ between)).atMemberLevel = true) :
    (∀ l ∈ between, Line.IsInert (trim l)) ↔ (State.afterLines scopes seen).atMemberLevel = true := by
  induction between generalizing seen with
  | nil =>
    rw [List.append_nil] at hend
    simp [hend]
  | cons line rest ih =>
    by_cases hline : Line.IsInert (trim line)
    · obtain ⟨hout', hlevel⟩ := step_inert scopes (1 + seen.length) hout hline
      have hsnoc : State.afterLines scopes (seen ++ [line]) =
          ((State.afterLines scopes seen).step scopes (1 + seen.length) line).1 :=
        afterLines_append scopes seen [line]
      have hrest := ih (h.tail) (by rw [hsnoc, hout']) (by rwa [List.append_assoc])
      rw [hsnoc, hlevel] at hrest
      rw [← hrest]
      simp [hline]
    · obtain ⟨-, hbelow⟩ := (h [] line rest rfl).resolve_left hline
      rw [List.append_nil] at hbelow
      simp [hline, hbelow]

/-- A line that opens a block comment drops what waits, and its own text waits if it opens a doc
comment. -/
theorem history_opening (hs : State.afterLines scopes seen = s) (hout : s.comment = .outside)
    (hopening : "/*".toList <+: trim line) :
    History scopes (seen ++ [line]) (s.openComment (trim line)) := by
  have hseen : (State.afterLines scopes seen).comment = .outside := by rw [hs, hout]
  cases hdoc : opens line with
  | false =>
    have hdoc' : State.opensDoc (trim line) = false := hdoc
    refine .nothing ?_ ?_
    · unfold State.openComment
      rw [hdoc']
      dsimp only
      split <;> exact Comment.noConfusion
    · unfold State.openComment
      rw [hdoc']
      rfl
  | true =>
    have hreads : Reads scopes 0 s (trim line) _ _ := .opening hout hopening
    have hstep := step_opens scopes 0 hout hdoc
    rw [hreads.step_eq] at hstep
    cases hcloses : closes 2 line with
    | false => exact .inside rfl hseen (.first hdoc hcloses)
    | true =>
      rw [hcloses] at hstep
      refine .waiting (List.append_nil _).symm hseen (.single hdoc hcloses) (.nil _ _) ?_ ?_
      · exact congrArg State.comment hstep
      · exact congrArg State.pendingDoc hstep

theorem afterLines_isOpen {before block : List Text}
    (hout : (State.afterLines scopes before).comment = .outside) (hblock : IsOpen block) :
    State.afterLines scopes (before ++ block) =
      { State.afterLines scopes before with comment := .doc, pendingDoc := texts block } := by
  rw [afterLines_append, after_isOpen hblock hout]

/-- The text keeps waiting over inert lines and code below member level. -/
theorem history_passing (h : History scopes seen s) (hs : State.afterLines scopes seen = s)
    (hout : s.comment = .outside)
    (hline : Line.IsInert (trim line) ∨ Line.IsCode (trim line) ∧ s.atMemberLevel = false)
    (hcomment : s'.comment = s.comment) (hpending : s'.pendingDoc = s.pendingDoc) :
    History scopes (seen ++ [line]) s' := by
  cases h with
  | nothing hdoc hnone => exact .nothing (hcomment ▸ hdoc) (hpending ▸ hnone)
  | inside hseen hbefore hblock =>
    rw [← hs, hseen, afterLines_isOpen hbefore hblock] at hout
    cases hout
  | waiting hseen hbefore hblock hpasses _ htexts =>
    rw [← hs, hseen] at hline
    refine .waiting (by rw [hseen, List.append_assoc]) hbefore hblock (hpasses.snoc hline) ?_ ?_
    · rw [hcomment, hout]
    · rw [hpending, htexts]

/-- A line inside a block comment belongs to it. -/
theorem history_comment (h : History scopes seen s) (hs : State.afterLines scopes seen = s)
    (hin : s.comment ≠ .outside) :
    History scopes (seen ++ [line]) (s.continueComment (trim line)) := by
  cases h with
  | nothing hdoc hnone =>
    refine .nothing ?_ ?_
    · unfold State.continueComment
      dsimp only
      split
      · exact Comment.noConfusion
      · exact hdoc
    · unfold State.continueComment
      rw [if_neg hdoc, hnone]
  | @inside before block hseen hout hblock =>
    rw [hseen, afterLines_isOpen hout hblock] at hs
    cases hcloses : closes 0 line with
    | false => exact .inside (by rw [hseen, List.append_assoc]) hout (.next hblock hcloses)
    | true =>
      have hlines : seen ++ [line] = before ++ (block ++ [line]) ++ [] := by
        rw [hseen, List.append_nil, List.append_assoc]
      have hcloses' : has "*/".toList (trim line) = true := hcloses
      refine .waiting hlines hout (.last hblock hcloses) (.nil _ _) ?_ ?_
      · unfold State.continueComment
        rw [hcloses']
        rfl
      · unfold State.continueComment
        rw [texts_append hblock, ← hs]
        rfl
  | waiting _ _ _ _ hout _ => exact absurd hout hin

/-- Each of the seven ways to read a line keeps the history true. -/
theorem history_step (h : History scopes seen s) (hs : State.afterLines scopes seen = s)
    (hreads : Reads scopes (1 + seen.length) s (trim line) s' outcome) :
    History scopes (seen ++ [line]) s' := by
  cases hreads with
  | comment hin => exact history_comment h hs hin
  | blank hout hremark => exact history_passing h hs hout (.inl (.inl hremark)) rfl rfl
  | opening hout hopening => exact history_opening hs hout hopening
  | below hout hcode hlevel => exact history_passing h hs hout (.inr ⟨hcode, hlevel⟩) rfl rfl
  | annotations hout _ _ hann => exact history_passing h hs hout (.inl (.inr hann)) rfl rfl
  | declared hout | skipped hout =>
    refine .nothing ?_ rfl
    change s.comment ≠ .doc
    rw [hout]
    exact Comment.noConfusion

theorem history_afterLines (scopes : ScopeList) (seen : List Text) :
    History scopes seen (State.afterLines scopes seen) := by
  induction seen using List.reverseRecOn with
  | nil => exact .nothing Comment.noConfusion rfl
  | append_singleton seen line ih =>
    rw [afterLines_append]
    exact history_step ih rfl (step_reads _ _ _ _)

/-! ## Declarations -/

/-- Every doc text was read off a whole doc comment above its declaration, with only inert lines and
code below member level between the two. Only inert lines stand there exactly when the comment opens
at member level. -/
theorem doc_origin {scopes : ScopeList} {source : Text} {d : Declaration} {t : Text}
    (hd : d ∈ (ofSource scopes source).declarations) (ht : d.docComment = some t) :
    ∃ before block between line rest,
      lines source = before ++ block ++ between ++ line :: rest ∧
      d.lineNumber = (before ++ block ++ between).length + 1 ∧
      (State.afterLines scopes before).comment = .outside ∧
      IsWhole block ∧ DocComment.ofLines? (texts block) = some t ∧
      Passes scopes (before ++ block) between ∧
      ((∀ l ∈ between, Line.IsInert (trim l)) ↔
        (State.afterLines scopes before).atMemberLevel = true) := by
  obtain ⟨seen, line, rest, hlines, hline⟩ := mem_declarations_iff.1 hd
  change ((State.afterLines scopes seen).step scopes (1 + seen.length) line).2 = .declared d at hline
  have hreads := step_reads scopes (1 + seen.length) (State.afterLines scopes seen) line
  have hhistory := history_afterLines scopes seen
  rw [hline] at hreads
  generalize hs : State.afterLines scopes seen = s at hreads hhistory
  generalize (s.step scopes (1 + seen.length) line).1 = s' at hreads
  cases hreads with
  | declared hout hcode hlevel hann hkept =>
    have hdoc : DocComment.ofLines? s.pendingDoc = some t := ht
    cases hhistory with
    | nothing _ hnone =>
      rw [hnone] at hdoc
      cases hdoc
    | inside hseen hbefore hblock =>
      rw [← hs, hseen, afterLines_isOpen hbefore hblock] at hout
      cases hout
    | @waiting before block between hseen hbefore hblock hpasses _ htexts =>
      refine ⟨before, block, between, line, rest, ?_, ?_, hbefore, hblock, ?_, hpasses, ?_⟩
      · rw [hlines, hseen]
      · rw [← hseen]
        exact Nat.add_comm _ _
      · rw [← htexts, hdoc]
      · have hblock' : State.afterLines scopes (before ++ block) =
            { State.afterLines scopes before with pendingDoc := texts block } := by
          rw [afterLines_append, after_isWhole hblock hbefore]
        rw [hpasses.all_inert_iff (by rw [hblock', hbefore]) (by rw [← hseen, hs, hlevel]), hblock']
        rfl

/-- A comment in the body of a method: its text waits past the code below it and the closing brace,
and the next method takes it. -/
theorem doc_origin_body :
    let source := "public class A \x7b\n    public void f() \x7b\n".toList ++
      "        /** Inner note. */\n        run();\n    \x7d\n    public void g() \x7b\x7d\n\x7d\n".toList
    let scopes : ScopeList := ⟨["public".toList]⟩
    ∃ d ∈ (ofSource scopes source).declarations,
      d.name = some "g".toList ∧ d.docComment = some "Inner note.".toList ∧
      ∃ before block between line rest,
        lines source = before ++ block ++ between ++ line :: rest ∧
        d.lineNumber = (before ++ block ++ between).length + 1 ∧
        (State.afterLines scopes before).comment = .outside ∧
        IsWhole block ∧ DocComment.ofLines? (texts block) = some "Inner note.".toList ∧
        Passes scopes (before ++ block) between ∧
        ((∀ l ∈ between, Line.IsInert (trim l)) ↔
          (State.afterLines scopes before).atMemberLevel = true) := by
  intro source scopes
  obtain ⟨d, hd, hname, hdoc⟩ : ∃ d ∈ (ofSource scopes source).declarations,
      d.name = some "g".toList ∧ d.docComment = some "Inner note.".toList := by
    decide +kernel
  exact ⟨d, hd, hname, hdoc, doc_origin hd hdoc⟩

end Outline

end ApexOutline
