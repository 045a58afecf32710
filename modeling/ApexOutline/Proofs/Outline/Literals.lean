import ApexOutline.Proofs.Cut
import ApexOutline.Proofs.Outline.Alike
import ApexOutline.Proofs.Outline.Nesting
import ApexOutline.Proofs.Outline.Parents
import Mathlib.Logic.Relation
/-!
# The contents of literals

Lines are not split into tokens, so what stands between quotes is read as the rest of the line is. Two
sources that differ only there have the same structure under the conditions of `SameButLiterals`: a line
opens as many more braces than it closes as before, and at member level no content is taken for code
(`LiteralInert`). Then the declarations agree in everything but the contents of literals in signatures and
names (`literals_keep_structure`). None of the conditions can be dropped (`literals_matter`).
-/

namespace ApexOutline

open Text

/-- A line with a literal. -/
def Line.withLiteral (before content after : Text) : Text :=
  before ++ '\'' :: (content ++ '\'' :: after)

/-- The kind and the name of a member are not read off the content of a literal after `before`. -/
structure Line.NameInert (before content : Text) : Prop where
  /-- The content does not hold the first parenthesis. -/
  paren : '(' ∈ content → '(' ∈ Annotations.strip before
  /-- The content is not what ends the name of a property. -/
  named : (∃ c ∈ content, Declaration.endsName c = true) →
    '(' ∈ Annotations.strip before ∨ ∃ c ∈ Annotations.strip before, Declaration.endsName c = true

/-- What keeps the content of a literal between `before` and `after` at member level from being read as
code. -/
structure Line.ContentInert (scopes : ScopeList) (context : Option Context)
    (before content after : Text) : Prop where
  member : heedsParen scopes context (withLiteral before content after) = true → NameInert before content
  /-- The content does not close the parameters of a collection. -/
  collection : '>' ∈ content →
    Scope.isByShape scopes (lower (trimStart (Annotations.strip before))) = true →
      Keyword.startsCollection (lower (trimStart (Annotations.strip before))) = true →
        Keyword.opensCollection (lower (trimStart (Annotations.strip before))) = true
  /-- The content is not what makes a static member a test. -/
  test : hasWord Scope.testWord (lower content) = true →
    Scope.isByShape scopes (lower (trimStart (Annotations.strip before))) = true →
      Keyword.opens "static".toList (lower (trimStart (Annotations.strip before))) = true →
        hasWord Scope.testWord (lower (trimStart (Annotations.strip before))) = true

/-- What keeps two contents of a literal at member level from being told apart. -/
structure Line.LiteralInert (scopes : ScopeList) (context : Option Context)
    (before a b after : Text) : Prop where
  /-- In an argument list that an annotation leaves open, both contents may stand, or neither lets the list
  be closed. -/
  arguments : Annotations.leavesOpen before = true →
    (∀ c ∈ a ++ b, Annotations.isArgument c = true) ∨
      Annotations.afterList? (a ++ '\'' :: after) = none ∧ Annotations.afterList? (b ++ '\'' :: after) = none
  old : ContentInert scopes context before a after
  new : ContentInert scopes context before b after

/-- One text becomes the other when the content of a literal changes. -/
inductive Line.LiteralChange : Text → Text → Prop
  | content (before a b after : Text) :
      LiteralChange (withLiteral before a after) (withLiteral before b after)

/-- The texts differ in the contents of literals. -/
def Line.DifferInLiterals : Text → Text → Prop :=
  Relation.ReflTransGen LiteralChange

/-- The names that two lines give are equal, or each contains a quote and is the last word of what the name
on its line is read off, and these parts of the lines differ in the contents of literals. -/
def QuotedAlike (line line' : Text) (name name' : Option Text) : Prop :=
  name' = name ∨
    Line.DifferInLiterals (Declaration.nameSource line) (Declaration.nameSource line') ∧
      ∃ w w', name = some w ∧ name' = some w' ∧ '\'' ∈ w ∧ '\'' ∈ w' ∧
        w = lastWord (Declaration.nameSource line) ∧ w' = lastWord (Declaration.nameSource line')

/-- The names are equal, or both contain a quote. -/
def SameOrQuoted (name name' : Option Text) : Prop :=
  name' = name ∨ ∃ w w', name = some w ∧ name' = some w' ∧ '\'' ∈ w ∧ '\'' ∈ w'

theorem SameOrQuoted.trans (n₁ n₂ n₃ : Option Text) (h : SameOrQuoted n₁ n₂) (h' : SameOrQuoted n₂ n₃) :
    SameOrQuoted n₁ n₃ := by
  rcases h' with rfl | ⟨w, w', hw, hw', hq, hq'⟩
  · exact h
  · rcases h with rfl | ⟨v, v', hv, hv', hqv, -⟩
    · exact .inr ⟨w, w', hw, hw', hq, hq'⟩
    · exact .inr ⟨v, w', hv, hw', hqv, hq'⟩

/-! ## A line with a literal -/

variable {before after a b : Text}

theorem Line.trim_withLiteral (before content after : Text) :
    trim (withLiteral before content after) = withLiteral (trimStart before) content (trimEnd after) := by
  unfold withLiteral
  rw [trim_append_cons (by decide), trimEnd_append_cons (by decide)]

theorem Line.withLiteral_eq_append (before content after : Text) :
    withLiteral before content after = (before ++ '\'' :: content) ++ '\'' :: after := by
  simp [withLiteral]

theorem Line.takeWhile_withLiteral {p : Char → Bool} {content : Text} (hbefore : ∀ c ∈ before, p c = true)
    (hcontent : ∀ c ∈ content, p c = true) (hquote : p '\'' = true) (after : Text) :
    (withLiteral before content after).takeWhile p = withLiteral before content (after.takeWhile p) := by
  unfold withLiteral
  rw [List.takeWhile_append_of_pos hbefore, List.takeWhile_cons_of_pos hquote,
    List.takeWhile_append_of_pos hcontent, List.takeWhile_cons_of_pos hquote]

theorem Line.isCode_withLiteral (h : IsCode (withLiteral before a after)) (b after' : Text) :
    IsCode (withLiteral before b after') := by
  obtain ⟨-, hslashes, hstar⟩ := h
  unfold withLiteral at *
  rw [prefix_append_cons_iff (by decide)] at hslashes hstar
  refine ⟨by simp, ?_, ?_⟩
  · rwa [prefix_append_cons_iff (by decide)]
  · rwa [prefix_append_cons_iff (by decide)]

theorem Line.extends_withLiteral (before content after : Text) :
    Extends ['\''] before (withLiteral before content after) :=
  .inr ⟨content ++ '\'' :: after, rfl⟩

/-- Dropping annotations leaves the literal, whatever it drops before it. -/
def Line.LeavesLiteral (before content after : Text) : Prop :=
  trimStart (Annotations.strip (withLiteral before content after)) =
    withLiteral (trimStart (Annotations.strip before)) content after

namespace Line.LeavesLiteral

variable {content : Text} (h : LeavesLiteral before content after)
include h

theorem trim_eq : trim (Annotations.strip (withLiteral before content after)) =
    withLiteral (trimStart (Annotations.strip before)) content (trimEnd after) := by
  rw [Text.trim_eq, h]
  unfold withLiteral
  rw [trimEnd_append_cons (by decide), trimEnd_append_cons (by decide)]

theorem normalize_eq : Scope.normalize (withLiteral before content after) =
    lower (withLiteral (trimStart (Annotations.strip before)) content (trimEnd after)) := by
  unfold Scope.normalize
  rw [h.trim_eq]

theorem newline_not_mem (hn : '\n' ∉ withLiteral before content after) :
    '\n' ∉ withLiteral (trimStart (Annotations.strip before)) content (trimEnd after) := by
  rw [← h.trim_eq]
  exact fun hmem => hn (((infix_trim _).trans (Annotations.strip_suffix _).isInfix).subset hmem)

end Line.LeavesLiteral

/-! ## Members -/

namespace Line.NameInert

variable {context : Option Context}

theorem mem_trimStart_strip {c : Char} (hc : isBlank c = false) (h : c ∈ Annotations.strip before) :
    c ∈ trimStart (Annotations.strip before) := by
  rw [← List.takeWhile_append_dropWhile (p := isBlank) (l := Annotations.strip before), List.mem_append] at h
  rcases h with h | h
  · rw [List.mem_takeWhile_imp h] at hc
    cases hc
  · exact h

section

variable {content : Text} (h : NameInert before content)
include h

theorem paren_iff (after : Text) :
    '(' ∈ withLiteral (trimStart (Annotations.strip before)) content after ↔
      '(' ∈ trimStart (Annotations.strip before) ∨ '(' ∈ after := by
  have hparen := fun hmem => mem_trimStart_strip (c := '(') (by decide) (h.paren hmem)
  unfold withLiteral
  simp only [List.mem_append, List.mem_cons, Char.reduceEq, false_or]
  tauto

/-- Where neither a parenthesis nor the end of the name stands before the literal, the name is looked for
in a part that reaches over it. -/
theorem namePart_eq (after : Text) (hparen : '(' ∉ trimStart (Annotations.strip before))
    (hends : '(' ∈ after ∨ ∀ c ∈ trimStart (Annotations.strip before), Declaration.endsName c = false) :
    Declaration.namePart (withLiteral (trimStart (Annotations.strip before)) content after) =
      withLiteral (trimStart (Annotations.strip before)) content (Declaration.namePart after) := by
  have hcontent : '(' ∉ content := fun hmem =>
    hparen (mem_trimStart_strip (by decide) (h.paren hmem))
  have hcontinues (hnone : ∀ c ∈ trimStart (Annotations.strip before), Declaration.endsName c = false) :
      ∀ c ∈ content, Declaration.endsName c = false := by
    intro c hc
    by_contra hnot
    rcases h.named ⟨c, hc, by simpa using hnot⟩ with hbefore | ⟨d, hd, hdends⟩
    · exact hparen (mem_trimStart_strip (by decide) hbefore)
    · rw [hnone d (mem_trimStart_strip (Declaration.isBlank_of_endsName hdends) hd)] at hdends
      cases hdends
  have hmem := h.paren_iff after
  unfold Declaration.namePart
  by_cases hafter : '(' ∈ after
  · rw [if_pos (hmem.2 (.inr hafter)), if_pos hafter]
    refine takeWhile_withLiteral (fun c hc => ?_) (fun c hc => ?_) (by decide) after
    · simpa using fun heq : c = '(' => hparen (heq ▸ hc)
    · simpa using fun heq : c = '(' => hcontent (heq ▸ hc)
  · have hnone := hends.resolve_left hafter
    rw [if_neg fun h => (hmem.1 h).elim hparen hafter, if_neg hafter]
    refine takeWhile_withLiteral (fun c hc => ?_) (fun c hc => ?_) (by decide) after
    · simp [hnone c hc]
    · simp [hcontinues hnone c hc]

end

/-- The name stands before the literal, or it is looked for in a part that holds the literal. -/
theorem namePart_cases (ha : NameInert before a) (hb : NameInert before b) (after : Text) :
    Declaration.namePart (withLiteral (trimStart (Annotations.strip before)) b after) =
        Declaration.namePart (withLiteral (trimStart (Annotations.strip before)) a after) ∨
      ∃ tail, Declaration.namePart (withLiteral (trimStart (Annotations.strip before)) a after) =
          withLiteral (trimStart (Annotations.strip before)) a tail ∧
        Declaration.namePart (withLiteral (trimStart (Annotations.strip before)) b after) =
          withLiteral (trimStart (Annotations.strip before)) b tail := by
  by_cases hends : '(' ∈ trimStart (Annotations.strip before) ∨
      '(' ∉ after ∧ ∃ c ∈ trimStart (Annotations.strip before), Declaration.endsName c = true
  · left
    have hpart {content : Text} (h : NameInert before content) :
        Declaration.namePart (withLiteral (trimStart (Annotations.strip before)) content after) =
          Declaration.namePart (trimStart (Annotations.strip before)) := by
      refine Declaration.namePart_append ?_
      by_cases hparen : '(' ∈ trimStart (Annotations.strip before)
      · exact .inl hparen
      · obtain ⟨hafter, hends⟩ := hends.resolve_left hparen
        refine .inr ⟨fun hmem => ?_, hends⟩
        exact ((h.paren_iff after).1 (List.mem_append_right _ hmem)).elim hparen hafter
    rw [hpart ha, hpart hb]
  · right
    have hparen : '(' ∉ trimStart (Annotations.strip before) := fun hmem => hends (.inl hmem)
    have hends' : '(' ∈ after ∨
        ∀ c ∈ trimStart (Annotations.strip before), Declaration.endsName c = false := by
      by_cases hafter : '(' ∈ after
      · exact .inl hafter
      · refine .inr fun c hc => ?_
        by_contra hnot
        exact hends (.inr ⟨hafter, c, hc, by simpa using hnot⟩)
    exact ⟨_, ha.namePart_eq after hparen hends', hb.namePart_eq after hparen hends'⟩

/-- The name is the same, or it reaches back to the literal. -/
theorem lastWord_cases (ha : NameInert before a) (hb : NameInert before b) (after : Text) :
    let word (content : Text) := lastWord
      (Declaration.namePart (withLiteral (trimStart (Annotations.strip before)) content after))
    word b = word a ∨ '\'' ∈ word a ∧ '\'' ∈ word b := by
  intro word
  rcases ha.namePart_cases hb after with hsame | ⟨tail, hparta, hpartb⟩
  · exact .inl (congrArg lastWord hsame)
  · have ha' : word a = lastWord (withLiteral _ a tail) := congrArg lastWord hparta
    have hb' : word b = lastWord (withLiteral _ b tail) := congrArg lastWord hpartb
    rw [ha', hb', withLiteral_eq_append, withLiteral_eq_append]
    rcases lastWord_append_cons (c := '\'') (by decide) tail with hafter | hquoted
    · exact .inl ((hafter _).trans (hafter _).symm)
    · exact .inr ⟨hquoted _, hquoted _⟩

theorem memberOf_of_lastWord {s : Text} (hword : '\'' ∈ lastWord (Declaration.namePart s))
    (hcontext : ∀ c ∈ context, ∀ d ∈ c.simpleName, isWord d = true) :
    Declaration.memberOf s (context.map (lower ·.simpleName)) =
      (if '(' ∈ s then .method else .property, some (lastWord (Declaration.namePart s))) := by
  have hname : Declaration.nonEmpty? (lastWord (Declaration.namePart s)) =
      some (lastWord (Declaration.namePart s)) :=
    Declaration.nonEmpty?_eq_some_iff.2 ⟨rfl, List.ne_nil_of_mem hword⟩
  have hne : (some (lower (lastWord (Declaration.namePart s))) ==
      context.map (lower ·.simpleName)) = false := by
    rw [beq_eq_false_iff_ne]
    intro heq
    obtain ⟨c, hc, hlower⟩ := Option.map_eq_some_iff.1 heq.symm
    have hquote : IsCaseless '\'' := by decide +kernel
    rw [← mem_lower_iff hquote, ← hlower, mem_lower_iff hquote] at hword
    exact absurd (hcontext c hc _ hword) (by decide)
  rw [Declaration.memberOf_eq, hname]
  simp only [Option.map_some, hne, Bool.and_false, Bool.false_eq_true, if_false]

/-- The member on the line has the same kind, and the same name unless the name contains the literal. -/
theorem memberOf_alike (ha : NameInert before a) (hb : NameInert before b)
    (hcontext : ∀ c ∈ context, ∀ d ∈ c.simpleName, isWord d = true) (after : Text) :
    let found (content : Text) := Declaration.memberOf
      (withLiteral (trimStart (Annotations.strip before)) content after)
      (context.map (lower ·.simpleName))
    (found b).1 = (found a).1 ∧ SameOrQuoted (found a).2 (found b).2 := by
  intro found
  have hparens : '(' ∈ withLiteral (trimStart (Annotations.strip before)) b after ↔
      '(' ∈ withLiteral (trimStart (Annotations.strip before)) a after :=
    (hb.paren_iff after).trans (ha.paren_iff after).symm
  rcases ha.lastWord_cases hb after with hsame | ⟨hquoteda, hquotedb⟩
  · dsimp only at hsame
    have hfound : found b = found a := by
      change Declaration.memberOf _ _ = Declaration.memberOf _ _
      rw [Declaration.memberOf_eq, Declaration.memberOf_eq, hsame]
      simp only [hparens]
    rw [hfound]
    exact ⟨rfl, .inl rfl⟩
  · have hfounda := memberOf_of_lastWord hquoteda hcontext
    have hfoundb := memberOf_of_lastWord hquotedb hcontext
    refine ⟨?_, .inr ⟨_, _, congrArg Prod.snd hfounda, congrArg Prod.snd hfoundb, hquoteda, hquotedb⟩⟩
    refine (congrArg Prod.fst hfoundb).trans (Eq.trans ?_ (congrArg Prod.fst hfounda).symm)
    simp only [hparens]

end Line.NameInert

namespace Line.ContentInert

variable {scopes : ScopeList} {context : Option Context} {content : Text}

/-- Where the shape of the line counts, a parenthesis in the content is not the first one or nothing that
needs one opens the line. -/
theorem paren_of_isByShape (h : ContentInert scopes context before content after)
    (hleaves : LeavesLiteral before content after)
    (hshape : Scope.isByShape scopes (Scope.normalize (withLiteral before content after)) = true)
    (hmem : '(' ∈ content) :
    '(' ∈ trimStart (Annotations.strip before) ∨
      Keyword.opensMember (lower (trimStart (Annotations.strip before))) = false ∧
        Keyword.startsCollection (lower (trimStart (Annotations.strip before))) = false := by
  by_cases hheeds : heedsParen scopes context (withLiteral before content after) = true
  · exact .inl (NameInert.mem_trimStart_strip (by decide) ((h.member hheeds).paren hmem))
  · obtain ⟨hmember, hstarts⟩ := opens_of_not_heedsParen hshape hheeds
    rw [hleaves.normalize_eq] at hmember hstarts
    refine .inr ⟨Bool.eq_false_iff.2 fun hopens => ?_, Bool.eq_false_iff.2 fun hopens => ?_⟩
    · rw [← opensMember_eq_of_extends isCut_quote (extends_withLiteral _ content (trimEnd after)),
        ← List.append_nil (lower _)] at hopens
      rw [opensMember_append_blanks (by simp) hopens] at hmember
      cases hmember
    · rw [withLiteral, startsCollection_append hopens] at hstarts
      cases hstarts

/-- The line has the shape that it has with an empty literal. -/
theorem shape_eq (h : ContentInert scopes context before content after)
    (hleaves : LeavesLiteral before content after)
    (hscopes : ∀ k ∈ scopes.keywords, ¬ ['\''] <:+: lower k) (hn : '\n' ∉ withLiteral before content after)
    (hshape : Scope.isByShape scopes (lower (trimStart (Annotations.strip before))) = true) :
    Scope.isImplicitlyPrivate (lower (withLiteral (trimStart (Annotations.strip before)) content
        (trimEnd after))) =
      Scope.isImplicitlyPrivate (lower (withLiteral (trimStart (Annotations.strip before)) []
        (trimEnd after))) := by
  have hnewline := hleaves.newline_not_mem hn
  have hparen := fun hmem => h.paren_of_isByShape hleaves (by
    rw [hleaves.normalize_eq,
      (sameLeads_of_extends isCut_quote hscopes (extends_withLiteral _ _ _)).isByShape_eq, hshape]) hmem
  have hcollection := fun hmem => h.collection hmem hshape
  have htest := fun hword => h.test hword hshape
  have hstarts := startsCollection_of_opensCollection (t := trimStart (Annotations.strip before))
  generalize trimStart (Annotations.strip before) = s at *
  generalize trimEnd after = tail at *
  have hempty : '\n' ∉ withLiteral s [] tail := by
    simp only [withLiteral, List.mem_append, List.mem_cons, not_or] at hnewline ⊢
    exact ⟨hnewline.1, hnewline.2.1, List.not_mem_nil, hnewline.2.2.2⟩
  have hcut (content : Text) : withLiteral s content tail = s ++ (['\''] ++ (content ++ '\'' :: tail)) := rfl
  have hword (content : Text) : hasWord Scope.testWord (lower (content ++ '\'' :: tail)) =
      (hasWord Scope.testWord (lower content) || hasWord Scope.testWord (lower tail)) :=
    hasWord_lower_append_cons Scope.isAscii_testWord (by decide +kernel) (by decide) content tail
  have hnil : hasWord Scope.testWord (lower []) = false := hasWord_nil _
  rw [hcut] at hnewline hempty
  rw [hcut, hcut, isImplicitlyPrivate_append_cut isCut_quote hnewline,
    isImplicitlyPrivate_append_cut isCut_quote hempty, hword, hword, hnil, Bool.false_or, List.nil_append]
  simp only [← List.contains_iff_mem] at hparen hcollection
  grind

end Line.ContentInert

namespace Line.LiteralInert

variable {scopes : ScopeList} {context : Option Context}

theorem apart_quote (t : Text) : Annotations.Apart ('\'' :: t) where
  endsName c hc := by cases hc; decide
  opensNone c hc := by
    rw [show trimStart ('\'' :: t) = '\'' :: t from rfl] at hc
    cases hc
    decide

/-- Dropping annotations takes the whole literal or leaves all of it. -/
theorem strip_eq (h : LiteralInert scopes context before a b after) :
    trimStart (Annotations.strip (withLiteral before b after)) =
        trimStart (Annotations.strip (withLiteral before a after)) ∨
      LeavesLiteral before a after ∧ LeavesLiteral before b after := by
  have hkeep (content : Text) (hopen : Annotations.leavesOpen before = true →
      Annotations.afterList? (content ++ '\'' :: after) = none) : LeavesLiteral before content after := by
    have hquote (hleaves : Annotations.leavesOpen before = true) :
        Annotations.afterList? ('\'' :: (content ++ '\'' :: after)) = none := by
      rw [← hopen hleaves]
      exact Annotations.afterList?_append_of_all (List.forall_mem_singleton.2 (by decide)) _
    unfold LeavesLiteral withLiteral
    rw [Annotations.trimStart_strip_append_of_apart (apart_quote _) hquote, trimStart_append_cons (by decide)]
  cases hopen : Annotations.leavesOpen before with
  | false => exact .inr ⟨hkeep a (by simp [hopen]), hkeep b (by simp [hopen])⟩
  | true =>
    rcases h.arguments hopen with hall | ⟨hnonea, hnoneb⟩
    · have hcontinues {content : Text} (hsub : content ⊆ a ++ b) :
          Annotations.Continues ('\'' :: content) ('\'' :: after) :=
        ⟨apart_quote _, List.forall_mem_cons.2 ⟨by decide, fun c hc => hall c (hsub hc)⟩⟩
      have ha := hcontinues (List.subset_append_left a b)
      have hb := hcontinues (List.subset_append_right a b)
      rcases Annotations.trimStart_stripUpTo_append_inside ('\'' :: after) Annotations.limit hopen with
        ⟨rest, hrest⟩ | hinside
      · exact .inl ((hrest _ hb).trans (hrest _ ha).symm)
      · exact .inr ⟨hinside _ ha, hinside _ hb⟩
    · exact .inr ⟨hkeep a fun _ => hnonea, hkeep b fun _ => hnoneb⟩

theorem header_eq (h : LiteralInert scopes context before a b after) :
    TypeHeader.ofLine? (withLiteral before b after) = TypeHeader.ofLine? (withLiteral before a after) := by
  unfold TypeHeader.ofLine?
  rw [← words_trimStart (Annotations.strip (withLiteral before b after)),
    ← words_trimStart (Annotations.strip (withLiteral before a after))]
  rcases h.strip_eq with heq | ⟨ha, hb⟩
  · rw [heq]
  · rw [ha, hb]
    exact (ofWords?_words_of_extends isCut_quote (extends_withLiteral _ b after)).trans
      (ofWords?_words_of_extends isCut_quote (extends_withLiteral _ a after)).symm

section

variable (h : LiteralInert scopes context before a b after) (ha : LeavesLiteral before a after)
  (hb : LeavesLiteral before b after) (hcontext : ∀ c ∈ context, ∀ d ∈ c.simpleName, isWord d = true)
include h ha hb hcontext

/-- The contents change nothing about how the line opens. -/
theorem opensAlike (hscopes : ∀ k ∈ scopes.keywords, '\'' ∉ k) (hna : '\n' ∉ withLiteral before a after)
    (hnb : '\n' ∉ withLiteral before b after) :
    OpensAlike scopes context (Scope.normalize (withLiteral before a after))
      (Scope.normalize (withLiteral before b after)) := by
  have hquote : ∀ k ∈ scopes.keywords, ¬ ['\''] <:+: lower k := fun k hk hpart =>
    hscopes k hk ((mem_lower_iff (by decide +kernel)).1 (hpart.subset (List.mem_singleton_self _)))
  rw [ha.normalize_eq, hb.normalize_eq]
  refine opensAlike_of_extends isCut_quote hquote hcontext (extends_withLiteral _ a _)
    (extends_withLiteral _ b _) fun hshape => ?_
  exact (h.new.shape_eq hb hquote hnb hshape).trans (h.old.shape_eq ha hquote hna hshape).symm

omit hcontext in
theorem paren_iff (hheader : TypeHeader.ofLine? (withLiteral before a after) = none)
    (hinterface : context.any (·.isInterface) = true) :
    '(' ∈ Scope.normalize (withLiteral before b after) ↔
      '(' ∈ Scope.normalize (withLiteral before a after) := by
  have hnamea := h.old.member (heedsParen_of_isInterface hheader hinterface)
  have hnameb := h.new.member (heedsParen_of_isInterface (h.header_eq.trans hheader) hinterface)
  rw [ha.normalize_eq, hb.normalize_eq, mem_lower_iff (by decide +kernel), mem_lower_iff (by decide +kernel),
    hnamea.paren_iff, hnameb.paren_iff]

/-- The kind on a kept line is the same, and the name too unless it contains the literal. -/
theorem kindAndName_alike (hkepta : isKept (withLiteral before a after) scopes context = true)
    (hkeptb : isKept (withLiteral before b after) scopes context = true) :
    let found (content : Text) :=
      Declaration.kindAndName (withLiteral before content after) (context.map (lower ·.simpleName))
    (found b).1 = (found a).1 ∧ SameOrQuoted (found a).2 (found b).2 := by
  simp only [Declaration.kindAndName]
  rw [h.header_eq]
  cases hheader : TypeHeader.ofLine? (withLiteral before a after) with
  | some header => exact ⟨rfl, .inl rfl⟩
  | none =>
    have hnamea := h.old.member (heedsParen_of_isKept hheader hkepta)
    have hnameb := h.new.member (heedsParen_of_isKept (h.header_eq.trans hheader) hkeptb)
    rw [ha.trim_eq, hb.trim_eq]
    exact hnamea.memberOf_alike hnameb hcontext (trimEnd after)

end

/-- What the name on a kept line is read off differs in the literal at most. -/
theorem differ_nameSource (h : LiteralInert scopes context before a b after)
    (hheader : TypeHeader.ofLine? (withLiteral before a after) = none)
    (hkepta : isKept (withLiteral before a after) scopes context = true)
    (hkeptb : isKept (withLiteral before b after) scopes context = true) :
    DifferInLiterals (Declaration.nameSource (withLiteral before a after))
      (Declaration.nameSource (withLiteral before b after)) := by
  unfold Declaration.nameSource
  rcases h.strip_eq with heq | ⟨ha, hb⟩
  · rw [trim_eq, trim_eq, heq]
    exact .refl
  · have hnamea := h.old.member (heedsParen_of_isKept hheader hkepta)
    have hnameb := h.new.member (heedsParen_of_isKept (h.header_eq.trans hheader) hkeptb)
    rw [ha.trim_eq, hb.trim_eq]
    rcases hnamea.namePart_cases hnameb (trimEnd after) with hsame | ⟨tail, hparta, hpartb⟩
    · rw [hsame]
      exact .refl
    · rw [hparta, hpartb]
      exact .single (.content _ a b tail)

/-- The line is read alike with either content. -/
theorem readAlike (h : LiteralInert scopes context before a b after)
    (hscopes : ∀ k ∈ scopes.keywords, '\'' ∉ k)
    (hcontext : ∀ c ∈ context, ∀ d ∈ c.simpleName, isWord d = true)
    (hna : '\n' ∉ withLiteral before a after) (hnb : '\n' ∉ withLiteral before b after) :
    Outline.ReadAlike SameOrQuoted scopes context (withLiteral before a after)
      (withLiteral before b after) := by
  rcases h.strip_eq with heq | ⟨ha, hb⟩
  · exact .of_strip_eq (fun _ => .inl rfl) heq scopes context
  · have hopens := h.opensAlike ha hb hcontext hscopes hna hnb
    have hkept := hopens.isKept_eq h.header_eq (h.paren_iff ha hb)
    have hfound := fun hkepta => h.kindAndName_alike ha hb hcontext hkepta (hkept.trans hkepta)
    refine
      { annotations := ?_
        header := h.header_eq
        scope := hopens.scope_eq
        kept := hkept
        kind := fun hkepta => (hfound hkepta).1
        name := fun hkepta => (hfound hkepta).2 }
    unfold IsAnnotations
    rw [ha.trim_eq, hb.trim_eq]
    simp [withLiteral]

end Line.LiteralInert

/-! ## Edits -/

/-- The lines, read from the state `s`, differ in the content of one literal. At member level the contents
are inert. -/
inductive Line.LiteralEdit (scopes : ScopeList) (s : Outline.State) : Text → Text → Prop
  | edit {before a b after : Text} : '\n' ∉ b →
      (s.atMemberLevel = true →
        LiteralInert scopes s.context (trimStart before) a b (trimEnd after)) →
      LiteralEdit scopes s (withLiteral before a after) (withLiteral before b after)

/-- The lines differ in the contents of literals. -/
def Line.LiteralEdits (scopes : ScopeList) (s : Outline.State) : Text → Text → Prop :=
  Relation.ReflTransGen (LiteralEdit scopes s)

namespace Line.LiteralEdits

variable {scopes : ScopeList} {s : Outline.State} {line line' : Text}

theorem isCode (h : LiteralEdits scopes s line line') (hcode : IsCode (trim line)) :
    IsCode (trim line') := by
  induction h with
  | refl => exact hcode
  | tail _ hedit ih =>
    cases hedit with
    | @edit before a b after =>
      rw [trim_withLiteral] at ih ⊢
      exact isCode_withLiteral ih b (trimEnd after)

theorem newline_not_mem (h : LiteralEdits scopes s line line') (hn : '\n' ∉ line) : '\n' ∉ line' := by
  induction h with
  | refl => exact hn
  | tail _ hedit ih =>
    cases hedit with
    | edit hb =>
      simp only [withLiteral, List.mem_append, List.mem_cons, Char.reduceEq, false_or] at ih ⊢
      tauto

/-- At member level the line is read alike after any number of edits. -/
theorem readAlike (h : LiteralEdits scopes s line line') (hlevel : s.atMemberLevel = true) (hn : '\n' ∉ line)
    (hscopes : ∀ k ∈ scopes.keywords, '\'' ∉ k)
    (hcontext : ∀ c ∈ s.context, ∀ d ∈ c.simpleName, isWord d = true) :
    Outline.ReadAlike SameOrQuoted scopes s.context (trim line) (trim line') := by
  induction h with
  | refl => exact .of_strip_eq (fun _ => .inl rfl) rfl scopes s.context
  | @tail l l' hedits hedit ih =>
    refine ih.trans SameOrQuoted.trans ?_
    have hl : '\n' ∉ trim l := fun hmem => newline_not_mem hedits hn ((infix_trim l).subset hmem)
    have hl' : '\n' ∉ trim l' := fun hmem =>
      newline_not_mem (hedits.tail hedit) hn ((infix_trim l').subset hmem)
    cases hedit with
    | edit _ hinert =>
      rw [trim_withLiteral] at hl hl' ⊢
      rw [trim_withLiteral]
      exact (hinert hlevel).readAlike hscopes hcontext hl hl'

theorem differ_trim (h : LiteralEdits scopes s line line') : DifferInLiterals (trim line) (trim line') := by
  induction h with
  | refl => exact .refl
  | tail _ hedit ih =>
    refine ih.tail ?_
    cases hedit with
    | @edit before a b after =>
      rw [trim_withLiteral, trim_withLiteral]
      exact .content _ a b _

/-- At member level, so does what the name on a kept line is read off. -/
theorem differ_nameSource (h : LiteralEdits scopes s line line') (hlevel : s.atMemberLevel = true)
    (hn : '\n' ∉ line) (hscopes : ∀ k ∈ scopes.keywords, '\'' ∉ k)
    (hcontext : ∀ c ∈ s.context, ∀ d ∈ c.simpleName, isWord d = true)
    (hheader : TypeHeader.ofLine? (trim line) = none) (hkept : isKept (trim line) scopes s.context = true) :
    DifferInLiterals (Declaration.nameSource (trim line)) (Declaration.nameSource (trim line')) := by
  induction h with
  | refl => exact .refl
  | @tail l l' hedits hedit ih =>
    have hbefore := readAlike hedits hlevel hn hscopes hcontext
    have hafter := readAlike (hedits.tail hedit) hlevel hn hscopes hcontext
    refine ih.trans ?_
    cases hedit with
    | @edit before a b after _ hinert =>
      rw [trim_withLiteral] at hbefore hafter ⊢
      rw [trim_withLiteral]
      exact (hinert hlevel).differ_nameSource (hbefore.header.trans hheader) (hbefore.kept.trans hkept)
        (hafter.kept.trans hkept)

end Line.LiteralEdits

namespace Outline

/-! ## Sources -/

/-- The lines, read from the state `s`, differ only in the contents of literals on lines of code. Such a
line opens as many more braces than it closes as before, and at member level the edits are inert and a type
header keeps its first brace. -/
inductive SameButLiterals (scopes : ScopeList) : State → Nat → List Text → List Text → Prop
  | nil {s : State} {number : Nat} : SameButLiterals scopes s number [] []
  | same {s : State} {number : Nat} {line : Text} {ls ls' : List Text} :
      SameButLiterals scopes (s.step scopes number line).1 (number + 1) ls ls' →
      SameButLiterals scopes s number (line :: ls) (line :: ls')
  | edited {s : State} {number : Nat} {line line' : Text} {ls ls' : List Text} :
      s.comment = .outside → Line.IsCode (trim line) →
      Line.LiteralEdits scopes s line line' → braceSum line' = braceSum line →
      (s.atMemberLevel = true → (TypeHeader.ofLine? line).isSome = true → ('{' ∈ line' ↔ '{' ∈ line)) →
      SameButLiterals scopes (s.step scopes number line).1 (number + 1) ls ls' →
      SameButLiterals scopes s number (line :: ls) (line' :: ls')

/-- The declarations agree but for the contents of literals in their signatures and names. -/
structure AgreesButLiterals (d d' : Declaration) : Prop where
  signature : Line.DifferInLiterals d.signature d'.signature
  rest : SameButText (QuotedAlike d.signature d'.signature) d d'

theorem AgreesButLiterals.refl (d : Declaration) : AgreesButLiterals d d :=
  ⟨.refl, rfl, .inl rfl, rfl, rfl, rfl, rfl, rfl⟩

variable {line line' : Text}

theorem depthAfter_of_braceSum (h : braceSum line' = braceSum line) (depth : Nat) :
    State.depthAfter depth (trim line') = State.depthAfter depth (trim line) := by
  unfold braceSum at h
  apply depthAfter_congr
  rw [count_trim (by decide), count_trim (by decide), count_trim (by decide), count_trim (by decide)]
  omega

theorem leavesBodyOpen_of_braceSum (h : braceSum line' = braceSum line) (hmem : '{' ∈ line' ↔ '{' ∈ line) :
    leavesBodyOpen (trim line') = leavesBodyOpen (trim line) := by
  unfold braceSum at h
  apply leavesBodyOpen_congr
  · rw [count_trim (by decide), count_trim (by decide), count_trim (by decide), count_trim (by decide)]
    omega
  · rw [mem_trim_iff (by decide), mem_trim_iff (by decide), hmem]

variable {scopes : ScopeList} {number : Nat} {s s' : State} {outcome : Outcome}

/-- Declarations that are read alike off edited lines agree but for the contents of literals. -/
theorem agreesButLiterals_of_reads {t : State} {d d' : Declaration}
    (h : Reads scopes number s (trim line) s' (.declared d))
    (h' : Reads scopes number s (trim line') t (.declared d')) (htext : SameButText SameOrQuoted d d')
    (hedits : Line.LiteralEdits scopes s line line') (hn : '\n' ∉ line)
    (hscopes : ∀ k ∈ scopes.keywords, '\'' ∉ k)
    (hcontext : ∀ c ∈ s.context, ∀ a ∈ c.simpleName, isWord a = true) : AgreesButLiterals d d' := by
  have hlevel := atMemberLevel_of_reads h
  have hkept := isKept_of_reads h
  have halike := hedits.readAlike hlevel hn hscopes hcontext
  obtain rfl := eq_declare_of_reads h
  obtain rfl := eq_declare_of_reads h'
  refine ⟨hedits.differ_trim, { htext with name := ?_ }⟩
  cases hheader : TypeHeader.ofLine? (trim line) with
  | some header =>
    left
    simp only [State.declare, Declaration.kindAndName, hheader, halike.header.trans hheader]
  | none =>
    have hname : (s.declare scopes number (trim line)).name = _ := Declaration.name_kindAndName hheader _
    have hname' : (s.declare scopes number (trim line')).name = _ :=
      Declaration.name_kindAndName (halike.header.trans hheader) _
    rcases htext.name with hsame | ⟨w, w', hw, hw', hquote, hquote'⟩
    · exact .inl hsame
    · refine .inr ⟨hedits.differ_nameSource hlevel hn hscopes hcontext hheader hkept, w, w', hw, hw', hquote,
        hquote', ?_, ?_⟩
      · exact (Declaration.nonEmpty?_eq_some_iff.1 (hname.symm.trans hw)).1
      · exact (Declaration.nonEmpty?_eq_some_iff.1 (hname'.symm.trans hw')).1

/-- An edited line leaves the same state and the same outcome, but for the contents of literals. -/
theorem Reads.literalEdits (h : Reads scopes number s (trim line) s' outcome)
    {chain : List Declaration} (hchain : Declares chain s.openTypes)
    (hscopes : ∀ k ∈ scopes.keywords, '\'' ∉ k) (hn : '\n' ∉ line) (hout : s.comment = .outside)
    (hcode : Line.IsCode (trim line)) (hedits : Line.LiteralEdits scopes s line line')
    (hbraces : braceSum line' = braceSum line)
    (hbody : s.atMemberLevel = true → (TypeHeader.ofLine? line).isSome = true →
      ('{' ∈ line' ↔ '{' ∈ line)) :
    ∃ outcome', Reads scopes number s (trim line') s' outcome' ∧
      outcome.Related AgreesButLiterals outcome' := by
  have hcontext := hchain.isWord_simpleName
  have halike := fun hlevel => hedits.readAlike hlevel hn hscopes hcontext
  have hopen (hlevel : s.atMemberLevel = true) (hheader : (TypeHeader.ofLine? (trim line)).isSome = true) :
      leavesBodyOpen (trim line') = leavesBodyOpen (trim line) := by
    rw [TypeHeader.ofLine?_trim] at hheader
    exact leavesBodyOpen_of_braceSum hbraces (hbody hlevel hheader)
  obtain ⟨outcome', hreads', hrelated⟩ :=
    h.alike hout hcode (hedits.isCode hcode) (depthAfter_of_braceSum hbraces _) halike hopen
  refine ⟨outcome', hreads', ?_⟩
  cases hrelated with
  | same hnone => exact .same hnone
  | declared htext => exact .declared (agreesButLiterals_of_reads h hreads' htext hedits hn hscopes hcontext)

theorem outcomes_literals {ls ls' : List Text} (h : SameButLiterals scopes s number ls ls')
    {chain : List Declaration} (hchain : Declares chain s.openTypes)
    (hscopes : ∀ k ∈ scopes.keywords, '\'' ∉ k) (hn : ∀ l ∈ ls, '\n' ∉ l) :
    List.Forall₂ (Outcome.Related AgreesButLiterals) (outcomes scopes s number ls)
      (outcomes scopes s number ls') := by
  induction h generalizing chain with
  | nil => exact .nil
  | @same s number line ls ls' _ ih =>
    obtain ⟨chain', hchain', -⟩ := declares_step hchain (step_reads scopes number s line)
    exact .cons (.refl AgreesButLiterals.refl _) (ih hchain' (List.forall_mem_cons.1 hn).2)
  | @edited s number line line' ls ls' hout hcode hedits hbraces hbody _ ih =>
    obtain ⟨hline, hrest⟩ := List.forall_mem_cons.1 hn
    obtain ⟨chain', hchain', -⟩ := declares_step hchain (step_reads scopes number s line)
    obtain ⟨outcome', hreads', hrelated⟩ := (step_reads scopes number s line).literalEdits hchain hscopes
      hline hout hcode hedits hbraces hbody
    simp only [outcomes, hreads'.step_eq]
    exact .cons hrelated (ih hchain' hrest)

/-- The contents of literals do not affect the structure. Two sources that differ only in literals whose
contents are inert have as many skipped lines and as many declarations, which agree in kind, scope, parent,
line number and doc comment. Their signatures differ in the contents of literals. Their names are equal, or
have a quote in them; these are read off parts of the signatures that differ in the contents of literals. -/
theorem literals_keep_structure {scopes : ScopeList} {source source' : Text}
    (hscopes : ∀ k ∈ scopes.keywords, '\'' ∉ k)
    (h : SameButLiterals scopes {} 1 (lines source) (lines source')) :
    (ofSource scopes source').skippedLines = (ofSource scopes source).skippedLines ∧
      List.Forall₂ AgreesButLiterals (ofSource scopes source).declarations
        (ofSource scopes source').declarations :=
  ofOutcomes_related (outcomes_literals h .nil hscopes fun _ => newline_not_mem_of_mem_lines)

/-- A literal in an annotation, one in a name, and two with braces in the body of a method, which only
balance each other. -/
theorem literals_keep_structure_braces :
    let scopes : ScopeList := ⟨["public".toList]⟩
    let source := "public class A \x7b\n@Label('x') public String s = 'b'.trim();\n".toList ++
      "public void f() \x7b\nrun('\x7b', '\x7d');\n\x7d\n\x7d".toList
    let source' := "public class A \x7b\n@Label('y z') public String s = 'c'.trim();\n".toList ++
      "public void f() \x7b\nrun('', '');\n\x7d\n\x7d".toList
    (ofSource scopes source').declarations.map (·.name) =
        [some ['A'], some "'c'.trim".toList, some ['f']] ∧
      (ofSource scopes source').skippedLines = (ofSource scopes source).skippedLines ∧
      List.Forall₂ AgreesButLiterals (ofSource scopes source).declarations
        (ofSource scopes source').declarations := by
  intro scopes source source'
  let inType : State := (State.step {} scopes 1 "public class A \x7b".toList).1
  let inMethod : State := (State.step (State.step inType scopes 2
    (Line.withLiteral "@Label(".toList "x".toList ") public String s = 'b'.trim();".toList)).1
      scopes 3 "public void f() \x7b".toList).1
  have hmember : Line.LiteralEdits scopes inType
      (Line.withLiteral "@Label(".toList "x".toList ") public String s = 'b'.trim();".toList)
      (Line.withLiteral "@Label('y z') public String s = ".toList "c".toList ".trim();".toList) := by
    have hmid : Line.withLiteral "@Label(".toList "y z".toList ") public String s = 'b'.trim();".toList =
        Line.withLiteral "@Label('y z') public String s = ".toList "b".toList ".trim();".toList := by
      decide
    have hfirst : Line.LiteralEdit scopes inType
        (Line.withLiteral "@Label(".toList "x".toList ") public String s = 'b'.trim();".toList)
        (Line.withLiteral "@Label(".toList "y z".toList ") public String s = 'b'.trim();".toList) := by
      refine .edit (by decide) fun _ => ⟨fun _ => .inl (List.all_eq_true.1 (by decide)), ?_, ?_⟩ <;>
        refine ⟨fun _ => ⟨fun _ => ?_, fun _ => .inl ?_⟩, ?_, ?_⟩ <;> decide +kernel
    have hsecond : Line.LiteralEdit scopes inType
        (Line.withLiteral "@Label('y z') public String s = ".toList "b".toList ".trim();".toList)
        (Line.withLiteral "@Label('y z') public String s = ".toList "c".toList ".trim();".toList) := by
      have hends : '=' ∈ Annotations.strip "@Label('y z') public String s = ".toList := by decide +kernel
      refine .edit (by decide) fun _ => ⟨by decide +kernel, ?_, ?_⟩ <;>
        refine ⟨fun _ => ⟨?_, fun _ => .inr ⟨'=', hends, rfl⟩⟩, ?_, ?_⟩ <;> decide +kernel
    rw [hmid] at hfirst
    exact .tail (.single hfirst) hsecond
  have hbody : Line.LiteralEdits scopes inMethod
      (Line.withLiteral "run(".toList "\x7b".toList ", '\x7d');".toList)
      (Line.withLiteral "run('', ".toList [] ");".toList) := by
    have hbelow : inMethod.atMemberLevel ≠ true := by decide +kernel
    have hmid : Line.withLiteral "run(".toList [] ", '\x7d');".toList =
        Line.withLiteral "run('', ".toList "\x7d".toList ");".toList := by
      decide
    have hfirst : Line.LiteralEdit scopes inMethod
        (Line.withLiteral "run(".toList "\x7b".toList ", '\x7d');".toList)
        (Line.withLiteral "run(".toList [] ", '\x7d');".toList) :=
      .edit (by decide) fun h => absurd h hbelow
    have hsecond : Line.LiteralEdit scopes inMethod
        (Line.withLiteral "run('', ".toList "\x7d".toList ");".toList)
        (Line.withLiteral "run('', ".toList [] ");".toList) :=
      .edit (by decide) fun h => absurd h hbelow
    rw [hmid] at hfirst
    exact .tail (.single hfirst) hsecond
  have hsource : lines source =
      ["public class A \x7b".toList,
        Line.withLiteral "@Label(".toList "x".toList ") public String s = 'b'.trim();".toList,
        "public void f() \x7b".toList,
        Line.withLiteral "run(".toList "\x7b".toList ", '\x7d');".toList, ['\x7d'], ['\x7d']] := by
    decide +kernel
  have hsource' : lines source' =
      ["public class A \x7b".toList,
        Line.withLiteral "@Label('y z') public String s = ".toList "c".toList ".trim();".toList,
        "public void f() \x7b".toList,
        Line.withLiteral "run('', ".toList [] ");".toList, ['\x7d'], ['\x7d']] := by
    decide +kernel
  refine ⟨by decide +kernel, literals_keep_structure (by decide) ?_⟩
  rw [hsource, hsource']
  refine .same (.edited (by decide +kernel) (by decide +kernel) hmember (by decide +kernel)
    (by decide +kernel) (.same (.edited (by decide +kernel) (by decide +kernel) hbody (by decide +kernel)
    (by decide +kernel) (.same (.same .nil)))))

/-- None of the conditions can be dropped. In each of these sources, another content of the literal changes
how many lines are skipped or what the declarations say. -/
theorem literals_matter :
    let source (before content after : String) : Text := "public class A \x7b\n".toList ++
      Line.withLiteral before.toList content.toList after.toList ++ "\npublic Integer z;\n\x7d".toList
    ∀ p ∈ ([
        -- A brace in the body of a method makes the next line a member.
        (["public"], "public void f() \x7b\nrun(", "x", "\x7d", ");\npublic Integer y;\n\x7d"),
        -- A brace in the body of a method hides the member after it.
        (["public"], "public void f() \x7b\nrun(", "x", "\x7b", ");\n\x7d"),
        -- The content holds the first brace of a type header.
        (["public"], "public class B ", "x", "\x7b\x7d", ""),
        -- A listed keyword contains the literal.
        (["public", "x'y'"], "x", "y", "z", " i;"),
        -- The content cannot stand in an argument list.
        (["public"], "@A(", "x", "x-y", ") public Integer i;"),
        -- The content holds the first parenthesis.
        (["public"], "public String s = ", "x", "(x)", ";"),
        -- The content ends the name of a property.
        (["public"], "public ", "x", "x = y", " s;"),
        -- The name contains the literal.
        (["public"], "public String s = ", "x", "y", ".trim();"),
        -- The content closes the parameters of a collection.
        (["private"], "List<Id f(", "x", "x>", ");"),
        -- The content holds the keyword of tests.
        (["private"], "static String s = ", "x", "testMethod", ";")] :
        List (List String × String × String × String × String)),
      ¬ ((ofSource ⟨p.1.map String.toList⟩ (source p.2.1 p.2.2.2.1 p.2.2.2.2)).skippedLines =
            (ofSource ⟨p.1.map String.toList⟩ (source p.2.1 p.2.2.1 p.2.2.2.2)).skippedLines ∧
          List.Forall₂
            (fun d d' : Declaration => d'.kind = d.kind ∧ d'.name = d.name ∧ d'.scope = d.scope ∧
              d'.parent = d.parent ∧ d'.lineNumber = d.lineNumber)
            (ofSource ⟨p.1.map String.toList⟩ (source p.2.1 p.2.2.1 p.2.2.2.2)).declarations
            (ofSource ⟨p.1.map String.toList⟩ (source p.2.1 p.2.2.2.1 p.2.2.2.2)).declarations) := by
  decide +kernel

end Outline

end ApexOutline
