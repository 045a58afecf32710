import ApexOutline.Proofs.Members
import ApexOutline.Proofs.Outline.Parents
import ApexOutline.Proofs.Scope
/-!
# Outlines without scopes

With no scope listed, no line has a scope, and a declaration that is no type is kept for the sake of the
type around it: that is an interface, or the line is a constructor of it (`kept_without_scopes`). The type
around a line is one that an earlier declaration declares, whatever the braces do: each open type was opened
by such a declaration (`OpenType.OpenedBy`), from which it has its name and its keyword.
-/

namespace ApexOutline

open Text

theorem Scope.ofLine?_nil (line : Text) : ofLine? line ⟨[]⟩ = none := by
  rw [← Option.not_isSome_iff_eq_none, isSome_ofLine?_iff]
  simp

namespace Line

/-- The line has the shape of a constructor of the type: its name in any case, blanks, a parenthesis. -/
def IsConstructorOf (typeName line : Text) : Prop :=
  ∃ word gap rest, trim (Annotations.strip line) = word ++ gap ++ '(' :: rest ∧
    lower word = lower typeName ∧ ∀ c ∈ gap, isBlank c

variable {context : Option Context} {line : Text}

/-- Without scopes, a line that does not open as a type is kept because of the type it stands in. -/
theorem exists_isKeptIn (hkept : isKept line ⟨[]⟩ context = true)
    (hheader : TypeHeader.ofLine? line = none) (hbare : opensBareType (Scope.normalize line) = false) :
    ∃ c ∈ context, isKeptIn c (Scope.normalize line) = true := by
  unfold isKept at hkept
  rw [Scope.ofLine?_nil, hheader, hbare] at hkept
  simpa [Option.any_eq_true] using hkept

/-- A line that is kept because of the type it stands in has a parenthesis. The type is an interface,
or the line is a constructor of it. -/
theorem paren_of_isKeptIn {c : Context} (hword : ∀ b ∈ c.simpleName, isWord b = true)
    (h : isKeptIn c (Scope.normalize line) = true) :
    '(' ∈ trim (Annotations.strip line) ∧
      (c.isInterface = true ∨ IsConstructorOf c.simpleName line) := by
  have hparen : IsBarrier '(' := by decide +kernel
  unfold isKeptIn at h
  rw [Bool.or_eq_true, Bool.and_eq_true] at h
  rcases h with hconstructor | ⟨hinterface, hmem⟩
  · obtain ⟨word, gap, rest, hline, hname, -, hgap, -⟩ :=
      Declaration.exists_of_opensConstructor hword hconstructor
    refine ⟨?_, .inr ⟨word, gap, rest, hline, hname, hgap⟩⟩
    rw [hline]
    exact List.mem_append_right _ List.mem_cons_self
  · rw [List.contains_iff_mem, Scope.normalize, mem_lower_iff hparen.1] at hmem
    exact ⟨hmem, .inl hinterface⟩

end Line

namespace Outline

/-! ## Who opened a type -/

/-- The declaration declares the open type: the type has its name from the declaration, and is an
interface when the declaration says so. -/
structure OpenType.OpenedBy (t : OpenType) (d : Declaration) (keyword : TypeKeyword) (name : Text) :
    Prop where
  kind_eq : d.kind = .type keyword
  declares : d.DeclaresType name
  context_eq : t.context = ⟨qualifiedName d.parent name, keyword = .interfaceWord⟩

/-- Each of the types was opened by one of the declarations. -/
def AllOpenedBy (ds : List Declaration) (types : List OpenType) : Prop :=
  ∀ t ∈ types, ∃ d ∈ ds, ∃ keyword name, t.OpenedBy d keyword name

variable {scopes : ScopeList} {number : Nat} {s s' : State} {line : Text} {outcome : Outcome}
  {ds : List Declaration} {types : List OpenType}

/-- A type that stays open is at most marked. -/
theorem exists_context_of_mem_stillOpen {depth : Nat} {t : OpenType}
    (h : t ∈ State.stillOpen depth types) : ∃ u ∈ types, u.context = t.context := by
  induction types with
  | nil => cases h
  | cons u types ih =>
    unfold State.stillOpen at h
    split at h
    · rcases List.mem_cons.1 h with rfl | h
      · exact ⟨u, List.mem_cons_self, rfl⟩
      · exact ⟨t, List.mem_cons_of_mem _ h, rfl⟩
    split at h
    · obtain ⟨v, hv, hcontext⟩ := ih h
      exact ⟨v, List.mem_cons_of_mem _ hv, hcontext⟩
    · exact ⟨t, h, rfl⟩

theorem AllOpenedBy.stillOpen (h : AllOpenedBy ds types) (depth : Nat) :
    AllOpenedBy ds (State.stillOpen depth types) := by
  intro t ht
  obtain ⟨u, hu, hcontext⟩ := exists_context_of_mem_stillOpen ht
  obtain ⟨d, hd, keyword, name, hopened⟩ := h u hu
  exact ⟨d, hd, keyword, name, { hopened with context_eq := hcontext ▸ hopened.context_eq }⟩

theorem AllOpenedBy.append (h : AllOpenedBy ds types) (es : List Declaration) :
    AllOpenedBy (ds ++ es) types := by
  intro t ht
  obtain ⟨d, hd, hopened⟩ := h t ht
  exact ⟨d, List.mem_append_left _ hd, hopened⟩

/-- A declaration opens at most the type that it declares. -/
theorem AllOpenedBy.openTypesAfter (h : AllOpenedBy ds s.openTypes) (scopes : ScopeList) (number : Nat)
    (line : Text) :
    AllOpenedBy (ds ++ [s.declare scopes number line])
      (s.openTypesAfter (s.declare scopes number line) line) := by
  unfold State.openTypesAfter
  split
  · rename_i keyword name hkind hname
    split
    · intro t ht
      rcases List.mem_cons.1 ht with rfl | ht
      · exact ⟨_, List.mem_append_right _ List.mem_cons_self, keyword, name,
          { kind_eq := hkind, declares := declaresType_declare hkind hname, context_eq := rfl }⟩
      · exact h.append _ t ht
    · exact h.append _
  · exact h.append _

theorem allOpenedBy_step (h : AllOpenedBy ds s.openTypes) (hreads : Reads scopes number s line s' outcome) :
    AllOpenedBy (ds ++ outcome.declaration?.toList) s'.openTypes := by
  cases hreads with
  | comment | blank | opening | annotations => exact h.append _
  | below | skipped => exact (h.stillOpen _).append _
  | declared => exact (h.openTypesAfter scopes number line).stillOpen _

/-- After some lines, each open type was opened by a declaration among those found so far. -/
theorem allOpenedBy_after (h : AllOpenedBy ds s.openTypes) (scopes : ScopeList) (number : Nat)
    (ls : List Text) :
    AllOpenedBy (ds ++ (outcomes scopes s number ls).filterMap Outcome.declaration?)
      (State.after scopes s number ls).openTypes := by
  induction ls generalizing s number ds with
  | nil => exact h.append _
  | cons line ls ih =>
    rw [declarations_cons, ← List.append_assoc]
    exact ih (allOpenedBy_step h (step_reads scopes number s line)) _

/-! ## Declarations without scopes -/

/-- A line of a member that has a parenthesis declares a method or a constructor. -/
theorem kind_of_paren {enclosing : Option Text} (hheader : TypeHeader.ofLine? line = none)
    (hparen : '(' ∈ trim (Annotations.strip line)) :
    (Declaration.kindAndName line enclosing).1 = .method ∨
      (Declaration.kindAndName line enclosing).1 = .constructor := by
  unfold Declaration.kindAndName
  rw [hheader]
  dsimp only
  rw [Declaration.memberOf_of_paren hparen]
  exact Declaration.callableKind_eq _ _

/-- A line that is kept because of the type around it has a parenthesis and stands in a type that one of the
declarations declares: an interface, or a type of which the line is a constructor. -/
theorem member_of_isKeptIn {c : Context} (hopened : AllOpenedBy ds s.openTypes) (hc : c ∈ s.context)
    (hkept : Line.isKeptIn c (Scope.normalize line) = true) :
    '(' ∈ trim (Annotations.strip line) ∧
      ∃ t ∈ ds, ∃ keyword name, t.kind = .type keyword ∧ t.name = some name ∧
        s.context.map (·.name) = some (qualifiedName t.parent name) ∧
        (keyword = .interfaceWord ∨ Line.IsConstructorOf name line) := by
  obtain ⟨u, hu, rfl⟩ := Option.map_eq_some_iff.1 hc
  obtain ⟨t, ht, keyword, name, hkind, hdeclares, hcontext⟩ := hopened u (List.mem_of_head? hu)
  have hname : u.context.name = qualifiedName t.parent name := by rw [hcontext]
  have hsimple := simpleName_eq hname hdeclares.dot_not_mem
  obtain ⟨hparen, hcase⟩ := Line.paren_of_isKeptIn (hsimple ▸ hdeclares.isWord) hkept
  refine ⟨hparen, t, ht, keyword, name, hkind, hdeclares.name_eq, ?_, ?_⟩
  · rw [hc, Option.map_some, hname]
  · rw [hsimple, hcontext] at hcase
    simpa using hcase

/-- Without scopes, no declaration has a scope, and each one is a type, or its line opens with the bare
keyword of a type, or it is a method or a constructor directly inside a type that was declared before it.
That type is an interface, or its name opens the line before a parenthesis. -/
theorem kept_without_scopes {source : Text} {before rest : List Declaration} {d : Declaration}
    (hd : (ofSource ⟨[]⟩ source).declarations = before ++ d :: rest) :
    d.scope = none ∧
      (d.kind.isType = true ∨ Line.opensBareType (Scope.normalize d.signature) = true ∨
        (d.kind = .method ∨ d.kind = .constructor) ∧ '(' ∈ trim (Annotations.strip d.signature) ∧
          ∃ t ∈ before, ∃ keyword name, t.kind = .type keyword ∧ t.name = some name ∧
            d.parent = some (qualifiedName t.parent name) ∧
            (keyword = .interfaceWord ∨ Line.IsConstructorOf name d.signature)) := by
  obtain ⟨xs, line, ys, -, hbefore, hline⟩ := exists_line_of_declarations hd
  have hstart : AllOpenedBy [] ({} : State).openTypes := fun t ht => by cases ht
  have hopened := allOpenedBy_after hstart ⟨[]⟩ 1 xs
  rw [List.nil_append, hbefore] at hopened
  have hreads := step_reads ⟨[]⟩ (1 + xs.length) (State.after ⟨[]⟩ {} 1 xs) line
  rw [hline] at hreads
  generalize State.after ⟨[]⟩ {} 1 xs = s at hopened hreads
  obtain rfl := eq_declare_of_reads hreads
  refine ⟨Scope.ofLine?_nil _, ?_⟩
  cases hheader : TypeHeader.ofLine? (trim line) with
  | some header =>
    refine .inl ((isType_kindAndName (trim line) _).trans ?_)
    rw [hheader, Option.isSome_some]
  | none =>
    refine .inr ?_
    cases hbare : Line.opensBareType (Scope.normalize (trim line)) with
    | true => exact .inl hbare
    | false =>
      obtain ⟨c, hc, hin⟩ := Line.exists_isKeptIn (isKept_of_reads hreads) hheader hbare
      obtain ⟨hparen, htype⟩ := member_of_isKeptIn hopened hc hin
      exact .inr ⟨kind_of_paren hheader hparen, hparen, htype⟩

/-- A constructor behind an interface with a method. -/
theorem kept_without_scopes_nested :
    let source := "class A \x7b\ninterface B \x7b\nvoid f();\n\x7d\na (Integer x) \x7b\n\x7d\n\x7d\n".toList
    ∃ before d rest, (ofSource ⟨[]⟩ source).declarations = before ++ d :: rest ∧
      d.kind = .constructor ∧ d.parent = some ['A'] ∧
      ∃ t ∈ before, ∃ name, t.name = some name ∧ d.parent = some (qualifiedName t.parent name) := by
  intro source
  obtain ⟨d, hmem, hbare, hkind, hparent⟩ : ∃ d ∈ (ofSource ⟨[]⟩ source).declarations,
      Line.opensBareType (Scope.normalize d.signature) = false ∧ d.kind = .constructor ∧
        d.parent = some ['A'] := by
    decide +kernel
  obtain ⟨before, rest, hd⟩ := List.append_of_mem hmem
  obtain ⟨-, htype | hopens | ⟨-, -, t, ht, keyword, name, -, hname, hqualified, -⟩⟩ :=
    kept_without_scopes hd
  · rw [hkind] at htype
    cases htype
  · rw [hbare] at hopens
    cases hopens
  · exact ⟨before, d, rest, hd, hkind, hparent, t, ht, name, hname, hqualified⟩

/-- Constructors, the methods of interfaces, and lines that only open like a type are declarations even
when no scope is listed. -/
theorem not_only_types_without_scopes :
    (ofSource ⟨[]⟩ "class A \x7b\nA() \x7b\n\x7d\n\x7d\n".toList).declarations.map (·.kind) =
        [.type .classWord, .constructor] ∧
      (ofSource ⟨[]⟩ "interface B \x7b\nvoid f();\n\x7d\n".toList).declarations.map (·.kind) =
        [.type .interfaceWord, .method] ∧
      (ofSource ⟨[]⟩ "class (x)\n".toList).declarations.map (·.kind) = [.method] ∧
      ¬ ∀ source, ∀ d ∈ (ofSource ⟨[]⟩ source).declarations, d.kind.isType = true := by
  have hkinds : (ofSource ⟨[]⟩ "class A \x7b\nA() \x7b\n\x7d\n\x7d\n".toList).declarations.map (·.kind) =
      [.type .classWord, .constructor] := by
    decide +kernel
  refine ⟨hkinds, by decide +kernel, by decide +kernel, fun hall => ?_⟩
  obtain ⟨d, hd, hkind⟩ := List.mem_map.1 (hkinds ▸ List.mem_cons_of_mem _ List.mem_cons_self)
  have htype := hall _ d hd
  rw [hkind] at htype
  cases htype

end Outline

end ApexOutline
