import ApexOutline.Proofs.Outline.Accounting
/-!
# Parents

The parent of a declaration is the dotted name of a type that was declared before it
(`parents_resolve`). The open types are a stack whose entries belong to nested type declarations of the
outline, each inside the one below it (`Declares`); reading a line keeps that true whatever the braces do
(`declares_step`), since types are only opened by declarations and only closed from the top. The names
hold no dots, so a parent splits into the names of the nested types, and the simple name of the context
is the name of the innermost one.
-/

namespace ApexOutline

open Text

/-- The declaration declares a type with the given name, a run of word characters. -/
structure Declaration.DeclaresType (d : Declaration) (name : Text) : Prop where
  isType : d.kind.isType = true
  name_eq : d.name = some name
  name_ne_nil : name ≠ []
  isWord : ∀ c ∈ name, Text.isWord c

theorem Declaration.DeclaresType.dot_not_mem {d : Declaration} {name : Text} (h : d.DeclaresType name) :
    ∀ c ∈ name, (c == '.') = false := by
  intro c hc
  by_contra hdot
  rw [Bool.not_eq_false, beq_iff_eq] at hdot
  subst hdot
  exact absurd (h.isWord '.' hc) (by decide)

namespace Outline

/-! ## Nested types -/

/-- The declarations, innermost first, declare nested types, and the first text is the dotted name of
the innermost one. -/
inductive TypeChain : Option Text → List Declaration → Prop
  -- At top level.
  | top : TypeChain none []
  -- Inside the type that `t` declares, which stands inside the types of `outer`.
  | inside {t : Declaration} {name : Text} {outer : List Declaration} :
      TypeChain t.parent outer → t.DeclaresType name →
      TypeChain (some (qualifiedName t.parent name)) (t :: outer)

/-- The names of nested types are the pieces of their dotted name. -/
theorem TypeChain.splitOnP_eq {p : Text} {chain : List Declaration} (h : TypeChain (some p) chain) :
    (p.splitOnP (· == '.')).map some = chain.reverse.map (·.name) := by
  generalize hparent : some p = parent at h
  induction h generalizing p with
  | top => cases hparent
  | @inside t name outer houter ht ih =>
    cases hparent
    have hname := List.splitOnP_eq_singleton ht.dot_not_mem
    rw [List.reverse_cons, List.map_append, List.map_singleton, ht.name_eq]
    cases hp : t.parent with
    | none =>
      rw [hp] at houter
      cases houter
      simp [qualifiedName, hname]
    | some q =>
      rw [← ih hp.symm]
      simp only [qualifiedName]
      rw [List.splitOnP_append_cons _ _ (by decide), hname, List.map_append, List.map_singleton]

/-- The simple name of a nested type is its name. -/
theorem simpleName_eq {context : Context} {parent : Option Text} {name : Text}
    (hcontext : context.name = qualifiedName parent name) (h : ∀ c ∈ name, (c == '.') = false) :
    context.simpleName = name := by
  have hname := List.splitOnP_eq_singleton h
  unfold Context.simpleName
  rw [hcontext]
  cases parent with
  | none => simp [qualifiedName, hname]
  | some p =>
    simp only [qualifiedName]
    rw [List.splitOnP_append_cons _ _ (by decide), hname]
    simp

/-! ## The open types -/

/-- The declarations, innermost first, are those of the open types. -/
inductive Declares : List Declaration → List OpenType → Prop
  | nil : Declares [] []
  | cons {d : Declaration} {name : Text} {t : OpenType} {chain : List Declaration}
      {types : List OpenType} :
      Declares chain types → d.DeclaresType name → d.parent = types.head?.map (·.context.name) →
      t.context.name = qualifiedName d.parent name → Declares (d :: chain) (t :: types)

theorem Declares.typeChain {chain : List Declaration} {types : List OpenType} (h : Declares chain types) :
    TypeChain (types.head?.map (·.context.name)) chain := by
  induction h with
  | nil => exact .top
  | @cons d name t chain types hrest hd hparent hname ih =>
    rw [← hparent] at ih
    rw [List.head?_cons, Option.map_some, hname]
    exact .inside ih hd

/-- Closing types takes some off the top and leaves the names of the others alone. -/
theorem Declares.stillOpen {chain : List Declaration} {types : List OpenType} (h : Declares chain types)
    (depth : Nat) : ∃ n, Declares (chain.drop n) (State.stillOpen depth types) := by
  induction h with
  | nil => exact ⟨0, .nil⟩
  | @cons d name t chain types hrest hd hparent hname ih =>
    unfold State.stillOpen
    split
    · exact ⟨0, .cons hrest hd hparent hname⟩
    split
    · obtain ⟨n, hn⟩ := ih
      exact ⟨n + 1, hn⟩
    · exact ⟨0, .cons hrest hd hparent hname⟩

variable {scopes : ScopeList} {number : Nat} {s s' : State} {line : Text} {outcome : Outcome}

theorem Declares.applyBraces {chain : List Declaration} (h : Declares chain s.openTypes) (line : Text) :
    ∃ n, Declares (chain.drop n) (s.applyBraces line).openTypes :=
  h.stillOpen _

/-- The declaration on a type header declares a type whose name is a run of word characters. -/
theorem declaresType_declare {keyword : TypeKeyword} {name : Text}
    (hkind : (s.declare scopes number line).kind = .type keyword)
    (hname : (s.declare scopes number line).name = some name) :
    (s.declare scopes number line).DeclaresType name := by
  have hheader := isType_kindAndName line (s.context.map (lower ·.simpleName))
  change (s.declare scopes number line).kind.isType = _ at hheader
  rw [hkind] at hheader
  obtain ⟨header, hheader⟩ := Option.isSome_iff_exists.1 hheader.symm
  change (Declaration.kindAndName line _).2 = some name at hname
  unfold Declaration.kindAndName at hname
  rw [hheader] at hname
  cases hname
  obtain ⟨hne, hword⟩ := TypeHeader.name_of_ofLine? hheader
  exact
    { isType := by rw [hkind]; rfl
      name_eq := by simp [State.declare, Declaration.kindAndName, hheader]
      name_ne_nil := hne
      isWord := hword }

/-- A declaration opens at most its own type, inside those that are open. -/
theorem Declares.openTypesAfter {chain : List Declaration} (h : Declares chain s.openTypes)
    (scopes : ScopeList) (number : Nat) (line : Text) :
    Declares chain (s.openTypesAfter (s.declare scopes number line) line) ∨
      Declares (s.declare scopes number line :: chain)
        (s.openTypesAfter (s.declare scopes number line) line) := by
  unfold State.openTypesAfter
  split
  · rename_i keyword name hkind hname
    split
    · right
      refine .cons h (declaresType_declare hkind hname) ?_ rfl
      simp only [State.declare, State.context, Option.map_map]
      rfl
    · exact .inl h
  · exact .inl h

/-- Reading a line keeps the open types those of declarations, of which the new one may be the last. -/
theorem declares_step {chain : List Declaration} (h : Declares chain s.openTypes)
    (hreads : Reads scopes number s line s' outcome) :
    ∃ chain', Declares chain' s'.openTypes ∧
      chain'.reverse.Sublist (chain.reverse ++ outcome.declaration?.toList) := by
  have hdrop (l : List Declaration) (n : Nat) : (l.drop n).reverse.Sublist l.reverse :=
    (List.drop_sublist n l).reverse
  cases hreads with
  | comment | blank | opening | annotations => exact ⟨chain, h, List.sublist_append_left _ _⟩
  | below =>
    obtain ⟨n, hn⟩ := h.applyBraces line
    exact ⟨_, hn, (hdrop chain n).trans (List.sublist_append_left _ _)⟩
  | skipped =>
    obtain ⟨n, hn⟩ := h.stillOpen (State.depthAfter s.depth line)
    exact ⟨_, hn, (hdrop chain n).trans (List.sublist_append_left _ _)⟩
  | declared =>
    rcases h.openTypesAfter scopes number line with hsame | hpush
    · obtain ⟨n, hn⟩ := hsame.stillOpen (State.depthAfter s.depth line)
      exact ⟨_, hn, (hdrop chain n).trans (List.sublist_append_left _ _)⟩
    · obtain ⟨n, hn⟩ := hpush.stillOpen (State.depthAfter s.depth line)
      refine ⟨_, hn, (hdrop _ n).trans ?_⟩
      rw [List.reverse_cons]
      exact .refl _

/-- The declarations on some lines: that on the first line, if there is one, and those on the others. -/
theorem declarations_cons (scopes : ScopeList) (s : State) (number : Nat) (line : Text) (ls : List Text) :
    (outcomes scopes s number (line :: ls)).filterMap Outcome.declaration? =
      (s.step scopes number line).2.declaration?.toList ++
        (outcomes scopes (s.step scopes number line).1 (number + 1) ls).filterMap
          Outcome.declaration? := by
  simp only [outcomes, List.filterMap_cons]
  cases (s.step scopes number line).2.declaration? <;> rfl

/-- After some lines, the open types are those of nested declarations among the ones found so far. -/
theorem declares_after {chain : List Declaration} (h : Declares chain s.openTypes)
    (scopes : ScopeList) (number : Nat) (ls : List Text) :
    ∃ chain', Declares chain' (State.after scopes s number ls).openTypes ∧
      chain'.reverse.Sublist
        (chain.reverse ++ (outcomes scopes s number ls).filterMap Outcome.declaration?) := by
  induction ls generalizing s number chain with
  | nil => exact ⟨chain, h, List.sublist_append_left _ _⟩
  | cons line ls ih =>
    obtain ⟨chain₁, h₁, hsub₁⟩ := declares_step h (step_reads scopes number s line)
    obtain ⟨chain₂, h₂, hsub₂⟩ := ih h₁ (number + 1)
    refine ⟨chain₂, h₂, hsub₂.trans ?_⟩
    rw [declarations_cons, ← List.append_assoc]
    exact hsub₁.append (.refl _)

/-- The simple name of the innermost open type is the name that its declaration gives, a run of word
characters. -/
theorem Declares.isWord_simpleName {chain : List Declaration} (h : Declares chain s.openTypes) :
    ∀ context ∈ s.context, ∀ c ∈ context.simpleName, isWord c = true := by
  intro context hcontext
  unfold State.context at hcontext
  cases htypes : s.openTypes with
  | nil =>
    rw [htypes] at hcontext
    cases hcontext
  | cons t types =>
    rw [htypes] at hcontext h
    cases hcontext
    cases h with
    | cons _ hd _ hname =>
      change ∀ c ∈ t.context.simpleName, isWord c = true
      rw [simpleName_eq hname hd.dot_not_mem]
      exact hd.isWord

theorem simpleName_context_after (scopes : ScopeList) (ls : List Text) :
    ∀ context ∈ (State.after scopes {} 1 ls).context, ∀ c ∈ context.simpleName, isWord c = true := by
  obtain ⟨chain, hchain, -⟩ := declares_after (s := {}) .nil scopes 1 ls
  exact hchain.isWord_simpleName

/-! ## Outlines -/

theorem exists_line_of_outcomes {ls : List Text} {os os' : List Outcome}
    (h : outcomes scopes s number ls = os ++ outcome :: os') :
    ∃ xs line ys, ls = xs ++ line :: ys ∧ outcomes scopes s number xs = os ∧
      ((State.after scopes s number xs).step scopes (number + xs.length) line).2 = outcome := by
  induction ls generalizing s number os with
  | nil => cases os <;> cases h
  | cons x ls ih =>
    cases os with
    | nil => exact ⟨[], x, ls, rfl, rfl, (List.cons.inj h).1⟩
    | cons o os =>
      obtain ⟨rfl, hrest⟩ := List.cons.inj h
      obtain ⟨xs, line, ys, rfl, hos, hline⟩ := ih hrest
      refine ⟨x :: xs, line, ys, rfl, by rw [← hos]; rfl, ?_⟩
      rwa [List.length_cons, Nat.add_comm xs.length, ← Nat.add_assoc]

/-- The place of a declaration among the others, as a place among the lines. -/
theorem exists_line_of_declarations {ls : List Text} {before rest : List Declaration} {d : Declaration}
    (h : (outcomes scopes s number ls).filterMap Outcome.declaration? = before ++ d :: rest) :
    ∃ xs line ys, ls = xs ++ line :: ys ∧
      (outcomes scopes s number xs).filterMap Outcome.declaration? = before ∧
      ((State.after scopes s number xs).step scopes (number + xs.length) line).2 = .declared d := by
  obtain ⟨os, os', hos, hbefore, hrest⟩ := List.filterMap_eq_append_iff.1 h
  obtain ⟨between, o, later, rfl, hbetween, ho, -⟩ := List.filterMap_eq_cons_iff.1 hrest
  rw [← List.append_assoc] at hos
  obtain ⟨xs, line, ys, hls, hxs, hline⟩ := exists_line_of_outcomes hos
  refine ⟨xs, line, ys, hls, ?_, ?_⟩
  · rw [hxs, List.filterMap_append, hbefore, List.filterMap_eq_nil_iff.2 hbetween, List.append_nil]
  · rw [hline]
    cases o <;> cases ho
    rfl

theorem parent_of_reads {d : Declaration} (h : Reads scopes number s line s' (.declared d)) :
    d.parent = s.openTypes.head?.map (·.context.name) := by
  cases h
  simp only [State.declare, State.context, Option.map_map]
  rfl

/-- Parents resolve. The parent of a declaration is the dotted name of a type that an earlier
declaration declares, and its pieces are the names of the nested types around it, all of them declared
earlier; the simple name of the parent is the name of the innermost one. -/
theorem parents_resolve {scopes : ScopeList} {source : Text} {before rest : List Declaration}
    {d : Declaration} {p : Text}
    (hd : (ofSource scopes source).declarations = before ++ d :: rest) (hp : d.parent = some p) :
    ∃ t outer name,
      (t :: outer).reverse.Sublist before ∧ (∀ u ∈ t :: outer, u.lineNumber < d.lineNumber) ∧
      t.kind.isType = true ∧ t.name = some name ∧ p = qualifiedName t.parent name ∧
      TypeChain (some p) (t :: outer) ∧
      (p.splitOnP (· == '.')).map some = (t :: outer).reverse.map (·.name) ∧
      ∀ isInterface, Context.simpleName ⟨p, isInterface⟩ = name := by
  obtain ⟨xs, line, ys, hlines, hbefore, hline⟩ := exists_line_of_declarations hd
  have hreads := step_reads scopes (1 + xs.length) (State.after scopes {} 1 xs) line
  rw [hline] at hreads
  obtain ⟨chain, hchain, hsub⟩ := declares_after (s := {}) .nil scopes 1 xs
  rw [List.reverse_nil, List.nil_append, hbefore] at hsub
  have htypes := hchain.typeChain
  rw [← parent_of_reads hreads, hp] at htypes
  -- Line numbers increase, so whatever stands before `d` has a smaller one.
  have hnumbers := pairwise_lineNumber scopes {} 1 (lines source)
  change ((ofSource scopes source).declarations.map (·.lineNumber)).Pairwise (· < ·) at hnumbers
  rw [hd, List.map_append, List.map_cons, List.pairwise_append] at hnumbers
  have hearlier (u : Declaration) (hu : u ∈ chain) : u.lineNumber < d.lineNumber :=
    hnumbers.2.2 _ (List.mem_map_of_mem (hsub.subset (List.mem_reverse.2 hu))) _ List.mem_cons_self
  have hsplit := htypes.splitOnP_eq
  cases htypes with
  | @inside t name outer houter ht =>
    exact ⟨t, outer, name, hsub, hearlier, ht.isType, ht.name_eq, rfl, .inside houter ht, hsplit,
      fun _ => simpleName_eq rfl ht.dot_not_mem⟩

/-- The braces do not match: the header of `B` has none, and the braces of `A` are closed twice before `D`
is declared, which then stands at top level. -/
theorem parents_resolve_unbalanced :
    let scopes : ScopeList := ⟨["public".toList]⟩
    let source := "public class A \x7b \x7b\n\x7d\npublic class B\n\x7b\npublic Integer x;\n".toList ++
      "\x7d \x7d \x7d\npublic enum D \x7b X\n".toList
    (ofSource scopes source).declarations.map (·.parent) =
        [none, some ['A'], some "A.B".toList, none] ∧
      ∃ before d rest,
        (ofSource scopes source).declarations = before ++ d :: rest ∧ d.name = some ['x'] ∧
          ∃ t ∈ before, t.lineNumber < d.lineNumber ∧ t.kind.isType = true ∧
            t.name.map (qualifiedName t.parent) = some "A.B".toList := by
  intro scopes source
  obtain ⟨d, hd, hname, hp⟩ : ∃ d ∈ (ofSource scopes source).declarations,
      d.name = some ['x'] ∧ d.parent = some "A.B".toList := by
    decide +kernel
  obtain ⟨before, rest, hsplit⟩ := List.append_of_mem hd
  obtain ⟨t, outer, name, hsub, hearlier, htype, hname', hqualified, -⟩ := parents_resolve hsplit hp
  refine ⟨by decide +kernel, before, d, rest, hsplit, hname, t, ?_, hearlier t List.mem_cons_self, htype, ?_⟩
  · exact hsub.subset (List.mem_reverse.2 List.mem_cons_self)
  · rw [hname', Option.map_some, hqualified]

end Outline

end ApexOutline
