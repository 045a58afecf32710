import ApexOutline.Proofs.Outline.Reading
import Mathlib.Data.List.Forall2
/-!
# Lines that are read alike

When one line of a source is replaced by another, the lines after it are read as before if the two leave
the same state. `Reads.alike` says when they do: outside member level they need only change the depth
alike, and at member level everything that is read off them must agree, except for the signature and,
up to a relation, the name. The outline then changes in that declaration at most (`outcomes_replace`,
`ofOutcomes_related`).
-/

namespace ApexOutline.Outline

open Text

/-! ## Outcomes -/

/-- The outcomes are the same, or both are declarations and related. -/
inductive Outcome.Related (R : Declaration → Declaration → Prop) : Outcome → Outcome → Prop
  | same {o : Outcome} : o.declaration? = none → Related R o o
  | declared {d d' : Declaration} : R d d' → Related R (.declared d) (.declared d')

variable {R : Declaration → Declaration → Prop}

theorem Outcome.Related.refl (hR : ∀ d, R d d) (o : Outcome) : o.Related R o := by
  cases o with
  | declared d => exact .declared (hR d)
  | comment | blank | annotations | skipped => exact .same rfl

/-- Related outcomes amount to as many skipped lines and to related declarations. -/
theorem ofOutcomes_related {os os' : List Outcome} (h : List.Forall₂ (Outcome.Related R) os os') :
    (ofOutcomes os').skippedLines = (ofOutcomes os).skippedLines ∧
      List.Forall₂ R (ofOutcomes os).declarations (ofOutcomes os').declarations := by
  induction h with
  | nil => exact ⟨rfl, .nil⟩
  | @cons o o' os os' ho _ ih =>
    obtain ⟨hcount, hdeclarations⟩ := ih
    simp only [ofOutcomes] at hcount hdeclarations ⊢
    cases ho with
    | same hnone =>
      rw [List.count_cons, List.count_cons, hcount, List.filterMap_cons, List.filterMap_cons, hnone]
      exact ⟨rfl, hdeclarations⟩
    | declared hd =>
      rw [List.count_cons_of_ne (by simp), List.count_cons_of_ne (by simp), hcount]
      exact ⟨rfl, .cons hd hdeclarations⟩

/-! ## One line -/

/-- What is read off two lines at member level is the same, except for the signature and, up to the
relation `names`, the name. -/
structure ReadAlike (names : Option Text → Option Text → Prop) (scopes : ScopeList)
    (context : Option Context) (line line' : Text) : Prop where
  annotations : Line.IsAnnotations line' ↔ Line.IsAnnotations line
  header : TypeHeader.ofLine? line' = TypeHeader.ofLine? line
  scope : Scope.ofLine? line' scopes = Scope.ofLine? line scopes
  kept : Line.isKept line' scopes context = Line.isKept line scopes context
  kind : Line.isKept line scopes context = true →
    (Declaration.kindAndName line' (context.map (lower ·.simpleName))).1 =
      (Declaration.kindAndName line (context.map (lower ·.simpleName))).1
  name : Line.isKept line scopes context = true →
    names (Declaration.kindAndName line (context.map (lower ·.simpleName))).2
      (Declaration.kindAndName line' (context.map (lower ·.simpleName))).2

/-- The declarations agree but for the signature and, up to the relation `names`, the name. -/
structure SameButText (names : Option Text → Option Text → Prop) (d d' : Declaration) : Prop where
  kind : d'.kind = d.kind
  name : names d.name d'.name
  scope : d'.scope = d.scope
  lineNumber : d'.lineNumber = d.lineNumber
  parent : d'.parent = d.parent
  docComment : d'.docComment = d.docComment
  links : d'.links = d.links

variable {names : Option Text → Option Text → Prop} {scopes : ScopeList} {number : Nat}
  {s s' : State} {line line' : Text} {outcome : Outcome}

theorem ReadAlike.sameButText (h : ReadAlike names scopes s.context line line')
    (hkept : Line.isKept line scopes s.context = true) :
    SameButText names (s.declare scopes number line) (s.declare scopes number line') where
  kind := h.kind hkept
  name := h.name hkept
  scope := h.scope
  lineNumber := rfl
  parent := rfl
  docComment := rfl
  links := rfl

theorem ReadAlike.trans (hnames : ∀ n₁ n₂ n₃, names n₁ n₂ → names n₂ n₃ → names n₁ n₃)
    {context : Option Context} {l₁ l₂ l₃ : Text} (h : ReadAlike names scopes context l₁ l₂)
    (h' : ReadAlike names scopes context l₂ l₃) : ReadAlike names scopes context l₁ l₃ where
  annotations := h'.annotations.trans h.annotations
  header := h'.header.trans h.header
  scope := h'.scope.trans h.scope
  kept := h'.kept.trans h.kept
  kind hkept := (h'.kind (h.kept.trans hkept)).trans (h.kind hkept)
  name hkept := hnames _ _ _ (h.name hkept) (h'.name (h.kept.trans hkept))

/-- Kind and name are read off what dropping annotations leaves. -/
theorem kindAndName_congr (h : trimStart (Annotations.strip line') = trimStart (Annotations.strip line))
    (enclosing : Option Text) :
    Declaration.kindAndName line' enclosing = Declaration.kindAndName line enclosing := by
  unfold Declaration.kindAndName TypeHeader.ofLine?
  rw [words_congr h, trim_eq, trim_eq, h]

/-- Only what dropping annotations leaves counts. -/
theorem ReadAlike.of_strip_eq (hnames : ∀ n, names n n)
    (h : trimStart (Annotations.strip line') = trimStart (Annotations.strip line)) (scopes : ScopeList)
    (context : Option Context) : ReadAlike names scopes context line line' := by
  have htrim : trim (Annotations.strip line') = trim (Annotations.strip line) := by
    rw [trim_eq, trim_eq, h]
  have hheader : TypeHeader.ofLine? line' = TypeHeader.ofLine? line := by
    unfold TypeHeader.ofLine?
    rw [words_congr h]
  have hnormal : Scope.normalize line' = Scope.normalize line := by
    unfold Scope.normalize
    rw [htrim]
  have hscope : Scope.ofLine? line' scopes = Scope.ofLine? line scopes := by
    unfold Scope.ofLine?
    rw [hnormal]
  exact
    { annotations := by unfold Line.IsAnnotations; rw [htrim]
      header := hheader
      scope := hscope
      kept := by unfold Line.isKept; rw [hscope, hnormal, hheader]
      kind := fun _ => by rw [kindAndName_congr h]
      name := fun _ => by rw [kindAndName_congr h]; exact hnames _ }

/-- A header is read off both lines alike, so they open the same type. -/
theorem ReadAlike.openTypesAfter_eq (h : ReadAlike names scopes s.context line line')
    (hbody : (TypeHeader.ofLine? line).isSome = true → leavesBodyOpen line' = leavesBodyOpen line) :
    s.openTypesAfter (s.declare scopes number line') line' =
      s.openTypesAfter (s.declare scopes number line) line := by
  cases hheader : TypeHeader.ofLine? line with
  | none =>
    rw [Outline.openTypesAfter_eq (.inl hheader), Outline.openTypesAfter_eq (.inl (h.header.trans hheader))]
  | some header =>
    have hopen := hbody (by rw [hheader]; rfl)
    have hheader' := h.header.trans hheader
    unfold State.openTypesAfter
    simp only [State.declare, Declaration.kindAndName, hheader, hheader', hopen]

theorem applyBraces_eq (hdepth : State.depthAfter s.depth line' = State.depthAfter s.depth line) :
    s.applyBraces line' = s.applyBraces line := by
  unfold State.applyBraces
  rw [hdepth]

/-- Braces count up to those that close one another. -/
theorem depthAfter_congr (h : line'.count '{' + line.count '}' = line.count '{' + line'.count '}') (depth : Nat) :
    State.depthAfter depth line' = State.depthAfter depth line := by
  unfold State.depthAfter
  omega

/-- Only whether more braces open than close and whether any opens counts for a body. -/
theorem leavesBodyOpen_congr (hmore : line'.count '}' < line'.count '{' ↔ line.count '}' < line.count '{')
    (hany : '{' ∈ line' ↔ '{' ∈ line) : leavesBodyOpen line' = leavesBodyOpen line := by
  have hcontains : line'.contains '{' = line.contains '{' := by
    rw [Bool.eq_iff_iff, List.contains_iff_mem, List.contains_iff_mem, hany]
  unfold leavesBodyOpen
  simp only [hmore, hcontains]

/-- A line of code that changes the depth as another one does, and at member level is read alike, leaves
the same state. -/
theorem Reads.alike (h : Reads scopes number s line s' outcome) (hout : s.comment = .outside)
    (hcode : Line.IsCode line) (hcode' : Line.IsCode line')
    (hdepth : State.depthAfter s.depth line' = State.depthAfter s.depth line)
    (halike : s.atMemberLevel = true → ReadAlike names scopes s.context line line')
    (hbody : s.atMemberLevel = true → (TypeHeader.ofLine? line).isSome = true →
      leavesBodyOpen line' = leavesBodyOpen line) :
    ∃ outcome', Reads scopes number s line' s' outcome' ∧
      outcome.Related (SameButText names) outcome' := by
  have hpast (types : List OpenType) : s.past types line' = s.past types line := applyBraces_eq hdepth
  cases h with
  | comment h => exact absurd hout h
  | blank _ h => exact absurd h (Line.isCode_iff.1 hcode).1
  | opening _ h => exact absurd h hcode.2.2
  | below _ _ hlevel =>
    refine ⟨_, ?_, .same rfl⟩
    rw [← applyBraces_eq hdepth]
    exact .below hout hcode' hlevel
  | annotations _ _ hlevel hann =>
    exact ⟨_, .annotations hout hcode' hlevel ((halike hlevel).annotations.2 hann), .same rfl⟩
  | declared _ _ hlevel hann hkept =>
    have hline := halike hlevel
    refine ⟨_, ?_, .declared (hline.sameButText hkept)⟩
    rw [← hpast, ← hline.openTypesAfter_eq (hbody hlevel)]
    exact .declared hout hcode' hlevel (fun h => hann (hline.annotations.1 h)) (hline.kept.trans hkept)
  | skipped _ _ hlevel hann hkept =>
    have hline := halike hlevel
    refine ⟨_, ?_, .same rfl⟩
    rw [← hpast]
    exact .skipped hout hcode' hlevel (fun h => hann (hline.annotations.1 h)) (hline.kept.trans hkept)

/-! ## Outlines -/

/-- Replacing a line by one that leaves the same state changes no other outcome. -/
theorem outcomes_replace (hR : ∀ d, R d d) {xs ys : List Text}
    (h : Reads scopes (number + xs.length) (State.after scopes s number xs) (trim line) s' outcome)
    {outcome' : Outcome}
    (h' : Reads scopes (number + xs.length) (State.after scopes s number xs) (trim line') s' outcome')
    (hrelated : outcome.Related R outcome') :
    List.Forall₂ (Outcome.Related R) (outcomes scopes s number (xs ++ line :: ys))
      (outcomes scopes s number (xs ++ line' :: ys)) := by
  have hself (os : List Outcome) : List.Forall₂ (Outcome.Related R) os os :=
    List.forall₂_same.2 fun o _ => .refl hR o
  rw [outcomes_append, outcomes_append]
  refine List.rel_append (hself _) ?_
  simp only [outcomes, h.step_eq, h'.step_eq]
  exact .cons hrelated (hself _)

end ApexOutline.Outline
