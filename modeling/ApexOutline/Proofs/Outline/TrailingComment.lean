import ApexOutline.Proofs.Cut
import ApexOutline.Proofs.Outline.Alike
import ApexOutline.Proofs.Outline.Parents
/-!
# Comments at the end of a line

Lines are not split into tokens, so a comment after the code of a line is read with it. Below member level
only its braces count. At member level it can be taken for code in a few ways, which `CommentInert` rules out
one by one; then the comment changes the signature of the declaration on its line and nothing else
(`trailing_comment_inert`). None of the conditions can be dropped (`trailing_comment_matters`).
-/

namespace ApexOutline

open Text

/-- A line with a comment after its code. -/
def Line.withComment (line text : Text) : Text :=
  line ++ " // ".toList ++ text

/-- What keeps the comment `// text` after a line at member level, its outer blanks dropped, from being
read as part of the code. -/
structure Line.CommentInert (scopes : ScopeList) (context : Option Context) (line text : Text) :
    Prop where
  /-- No listed keyword holds the slashes. -/
  keywords : ∀ k ∈ scopes.keywords, ¬ "//".toList <:+: lower k
  /-- A line of annotations alone would become one that is skipped. -/
  notAnnotations : ¬ IsAnnotations line
  /-- A keyword alone on its line would open a declaration, since a blank follows it then. -/
  notLone : isLone scopes (Scope.normalize line) = false
  /-- The comment closes no argument list that an annotation leaves open. -/
  closesNone : Annotations.leavesOpen line = true → Annotations.afterList? text = none
  /-- The name of a member ends before the comment. -/
  named : (TypeHeader.ofLine? line).isSome = true ∨ isKept line scopes context = false ∨
    '(' ∈ Annotations.strip line ∨ ∃ c ∈ Annotations.strip line, Declaration.endsName c = true
  /-- The comment does not hold the first brace of a type header. -/
  body : '{' ∈ text → (TypeHeader.ofLine? line).isSome = true → '{' ∈ line
  /-- The comment does not hold the first parenthesis of a line that it matters to. -/
  paren : '(' ∈ text → heedsParen scopes context line = true → '(' ∈ Annotations.strip line
  /-- The comment does not close the parameters of a collection. -/
  collection : '>' ∈ text → '(' ∈ Annotations.strip line →
    Scope.isByShape scopes (Scope.normalize line) = true →
      Keyword.startsCollection (Scope.normalize line) = true →
        Keyword.opensCollection (Scope.normalize line) = true
  /-- The comment is not what makes a static member a test. -/
  test : hasWord Scope.testWord (lower text) = true →
    Scope.isByShape scopes (Scope.normalize line) = true →
      Keyword.opens "static".toList (Scope.normalize line) = true →
        hasWord Scope.testWord (Scope.normalize line) = true

/-! ## The line with its comment -/

variable {line text : Text}

theorem Line.trim_withComment (h : trim line ≠ []) (text : Text) :
    ∃ gap, gap ≠ [] ∧ (∀ c ∈ gap, isBlank c) ∧
      trim (withComment line text) = trim line ++ (gap ++ ("//".toList ++ trimEnd (' ' :: text))) := by
  obtain ⟨after, hafter, hblank⟩ := exists_trimEnd (trimStart line)
  have hstart : trimStart line ≠ [] := fun hnil => h (trim_eq_nil_iff.2 hnil)
  refine ⟨after ++ [' '], by simp, fun c hc => ?_, ?_⟩
  · rcases List.mem_append.1 hc with hc | hc
    · exact hblank c hc
    · rw [List.mem_singleton.1 hc]
      decide
  · have hsplit : withComment line text = (line ++ [' ']) ++ '/' :: ('/' :: ' ' :: text) := by
      simp [withComment]
    have hslash : trimEnd ('/' :: ' ' :: text) = '/' :: trimEnd (' ' :: text) :=
      trimEnd_append_cons (by decide) [] _
    rw [hsplit, trim_append_cons (by decide), trimStart_append_of_ne_nil hstart, hslash]
    conv_lhs => rw [hafter]
    rw [trim_eq]
    simp

theorem Line.isCode_withComment (h : IsCode (trim line)) (text : Text) :
    IsCode (trim (withComment line text)) := by
  obtain ⟨gap, hne, hgap, heq⟩ := trim_withComment h.1 text
  obtain ⟨b, gap, rfl⟩ := List.exists_cons_of_ne_nil hne
  have hb : isBlank b = true := hgap b List.mem_cons_self
  have hslash : b ≠ '/' := by
    rintro rfl
    exact absurd hb (by decide)
  have hstar : b ≠ '*' := by
    rintro rfl
    exact absurd hb (by decide)
  rw [heq, List.cons_append]
  refine ⟨by simp, ?_, ?_⟩
  · rw [prefix_append_cons_iff (by simp [hslash])]
    exact h.2.1
  · rw [prefix_append_cons_iff (by simp [hslash, hstar])]
    exact h.2.2

theorem Line.count_withComment {b : Char} (hb : isBlank b = false) (hslash : b ≠ '/') (line text : Text) :
    (trim (withComment line text)).count b = (trim line).count b + text.count b := by
  have hmark : (" // ".toList).count b = 0 := by
    rw [List.count_eq_zero]
    intro hmem
    have hmem' : b = ' ' ∨ b = '/' ∨ b = ' ' := by simpa using hmem
    rcases hmem' with rfl | rfl | rfl
    · exact absurd hb (by decide)
    · exact hslash rfl
    · exact absurd hb (by decide)
  rw [count_trim hb, count_trim hb, withComment, List.count_append, List.count_append, hmark, Nat.add_zero]

/-- A comment with as many opening as closing braces leaves the depth as the line alone does. -/
theorem depthAfter_withComment (hbraces : text.count '{' = text.count '}') (depth : Nat) (line : Text) :
    Outline.State.depthAfter depth (trim (Line.withComment line text)) =
      Outline.State.depthAfter depth (trim line) := by
  apply Outline.depthAfter_congr
  rw [Line.count_withComment (by decide) (by decide), Line.count_withComment (by decide) (by decide), hbraces]
  omega

theorem leavesBodyOpen_withComment (hbraces : text.count '{' = text.count '}')
    (hbody : '{' ∈ text → '{' ∈ trim line) :
    Outline.leavesBodyOpen (trim (Line.withComment line text)) = Outline.leavesBodyOpen (trim line) := by
  have hopens := Line.count_withComment (b := '{') (by decide) (by decide) line text
  have hcloses := Line.count_withComment (b := '}') (by decide) (by decide) line text
  apply Outline.leavesBodyOpen_congr
  · omega
  · rw [← List.count_pos_iff, ← List.count_pos_iff] at hbody ⊢
    omega

namespace Line.CommentInert

variable {scopes : ScopeList} {context : Option Context}

theorem afterList?_trimEnd {t : Text} (h : Annotations.afterList? t = none) :
    Annotations.afterList? (trimEnd t) = none := by
  obtain ⟨after, ht, -⟩ := exists_trimEnd t
  by_cases hall : ∀ c ∈ trimEnd t, Annotations.isArgument c
  · have hself := Annotations.afterList?_append_of_all hall []
    rw [List.append_nil] at hself
    rw [hself]
    rfl
  · rw [ht, Annotations.afterList?_append_of_not_all hall] at h
    exact Option.map_eq_none_iff.1 h

/-- What dropping annotations leaves is what they leave of the line, blanks, and the comment. -/
theorem strip_eq (h : CommentInert scopes context (trim line) text) (hline : trim line ≠ []) :
    ∃ gap, (∀ c ∈ gap, isBlank c) ∧
      trim (Annotations.strip (trim (withComment line text))) =
        trim (Annotations.strip (trim line)) ++ (gap ++ ("//".toList ++ trimEnd (' ' :: text))) := by
  obtain ⟨gap, hne, hgap, heq⟩ := trim_withComment hline text
  generalize hrest : trimEnd (' ' :: text) = rest at heq ⊢
  have hapart : Annotations.Apart (gap ++ ("//".toList ++ rest)) := by
    refine ⟨fun c hc => ?_, fun c hc => ?_⟩
    · obtain ⟨b, gap, rfl⟩ := List.exists_cons_of_ne_nil hne
      cases hc
      exact isWord_of_isBlank (hgap _ List.mem_cons_self)
    · rw [trimStart_append_of_eq_nil (trimStart_eq_nil_iff.2 hgap)] at hc
      cases hc
      decide
  have hopen (hleaves : Annotations.leavesOpen (trim line) = true) :
      Annotations.afterList? (gap ++ ("//".toList ++ rest)) = none := by
    have hclose : Annotations.afterList? (' ' :: text) = none := by
      rw [← h.closesNone hleaves]
      exact Annotations.afterList?_append_of_all (List.forall_mem_singleton.2 (by decide)) text
    rw [Annotations.afterList?_append_of_all fun c hc => by simp [Annotations.isArgument, hgap c hc],
      Annotations.afterList?_append_of_all (List.all_eq_true.1 (by decide)), ← hrest]
    exact afterList?_trimEnd hclose
  have hstart : trimStart (Annotations.strip (trim line)) ≠ [] :=
    fun hnil => h.notAnnotations (trim_eq_nil_iff.2 hnil)
  obtain ⟨after, hafter, hblank⟩ := exists_trimEnd (trimStart (Annotations.strip (trim line)))
  refine ⟨after ++ gap, fun c hc => ?_, ?_⟩
  · exact (List.mem_append.1 hc).elim (hblank c) (hgap c)
  · have hsplit : trimStart (Annotations.strip (trim (withComment line text))) =
        (trim (Annotations.strip (trim line)) ++ (after ++ gap) ++ ['/']) ++ '/' :: rest := by
      rw [heq, Annotations.trimStart_strip_append_of_apart hapart hopen, trimStart_append_of_ne_nil hstart]
      conv_lhs => rw [hafter]
      simp [trim_eq]
    rw [trim_eq, hsplit, trimEnd_append_cons (by decide), ← hrest, trimEnd_trimEnd]
    simp

theorem mem_of_mem_trimEnd {c : Char} (hc : isBlank c = false) (h : c ∈ trimEnd (' ' :: text)) :
    c ∈ text := by
  rcases List.mem_cons.1 ((prefix_dropWhileEnd isBlank _).subset h) with rfl | h
  · exact absurd hc (by decide)
  · exact h

theorem hasWord_trimEnd (w text : Text) :
    hasWord w (lower (trimEnd (' ' :: text))) = hasWord w (lower text) := by
  obtain ⟨after, heq, hafter⟩ := exists_trimEnd (' ' :: text)
  have hspace : hasWord w (lower (' ' :: text)) = hasWord w (lower text) := by
    rw [lower_cons_barrier (by decide +kernel), ← List.nil_append (' ' :: lower text),
      hasWord_append (by decide), hasWord_nil, Bool.false_or]
  rw [← hspace]
  conv_rhs => rw [heq, lower_append_blanks _ hafter, hasWord_append_blanks _ _ hafter]

/-- Where the shape of the line counts, a parenthesis in the comment is not the first one or nothing that
needs one opens the line. -/
theorem paren_of_isByShape (h : CommentInert scopes context (trim line) text) {s gap : Text}
    (hs : trim (Annotations.strip (trim line)) = s) (hgap : ∀ c ∈ gap, isBlank c)
    (hshape : Scope.isByShape scopes (Scope.normalize (trim line)) = true) (hmem : '(' ∈ text) :
    '(' ∈ s ++ gap ∨ Keyword.opensMember (lower (s ++ gap)) = false ∧
      Keyword.startsCollection (lower (s ++ gap)) = false := by
  have hnormal : Scope.normalize (trim line) = lower s := by
    unfold Scope.normalize
    rw [hs]
  by_cases hheeds : heedsParen scopes context (trim line) = true
  · have hstrip := (mem_trim_iff (by decide)).2 (h.paren hmem hheeds)
    exact .inl (List.mem_append_left gap (hs ▸ hstrip))
  · obtain ⟨hmember, hstarts⟩ := opens_of_not_heedsParen hshape hheeds
    rw [hnormal] at hmember hstarts
    refine .inr ⟨Bool.eq_false_iff.2 fun hopens => ?_, ?_⟩
    · rw [lower_append_blanks s hgap] at hopens
      rw [opensMember_append_blanks hgap hopens] at hmember
      cases hmember
    · rw [startsCollection_append_blanks s hgap, hstarts]

/-- The comment does not change the shape of the line. -/
theorem shape_eq (h : CommentInert scopes context (trim line) text) {s gap : Text}
    (hs : trim (Annotations.strip (trim line)) = s) (hgap : ∀ c ∈ gap, isBlank c)
    (hn : '\n' ∉ s ++ gap ++ ("//".toList ++ trimEnd (' ' :: text)))
    (hshape : Scope.isByShape scopes (lower s) = true)
    (hstatic : Keyword.opens "static".toList (lower (s ++ gap)) = Keyword.opens "static".toList (lower s)) :
    Scope.isImplicitlyPrivate (lower (s ++ gap ++ ("//".toList ++ trimEnd (' ' :: text)))) =
      Scope.isImplicitlyPrivate (lower (s ++ gap)) := by
  have hnormal : lower s = Scope.normalize (trim line) := by
    unfold Scope.normalize
    rw [hs]
  rw [hnormal] at hshape
  have hmem : '(' ∈ s ++ gap ↔ '(' ∈ Annotations.strip (trim line) := by
    rw [List.mem_append, ← hs, mem_trim_iff (by decide)]
    exact or_iff_left fun hmem => absurd (hgap _ hmem) (by decide)
  have hparen := fun hcomment => h.paren_of_isByShape hs hgap hshape (mem_of_mem_trimEnd (by decide) hcomment)
  have hcollection : '>' ∈ trimEnd (' ' :: text) → '(' ∈ s ++ gap →
      Keyword.startsCollection (lower (s ++ gap)) = true →
        Keyword.opensCollection (lower (s ++ gap)) = true := by
    rw [startsCollection_append_blanks s hgap, opensCollection_append_blanks s hgap, hmem, hnormal]
    exact fun hcomment hparen => h.collection (mem_of_mem_trimEnd (by decide) hcomment) hparen hshape
  have htest : hasWord Scope.testWord (lower (trimEnd (' ' :: text))) = true →
      Keyword.opens "static".toList (lower (s ++ gap)) = true →
        hasWord Scope.testWord (lower (s ++ gap)) = true := by
    rw [hasWord_trimEnd, hstatic, lower_append_blanks s hgap, hasWord_append_blanks _ _ hgap, hnormal]
    exact fun hcomment => h.test hcomment hshape
  have hstarts := startsCollection_of_opensCollection (t := s ++ gap)
  have hcontains : (lower (s ++ gap)).contains '(' = (s ++ gap).contains '(' := by
    rw [Bool.eq_iff_iff, List.contains_iff_mem, List.contains_iff_mem, mem_lower_iff (by decide +kernel)]
  rw [isImplicitlyPrivate_append_cut isCut_slashes hn]
  unfold Scope.isImplicitlyPrivate
  rw [hcontains]
  simp only [← List.contains_iff_mem] at hparen hcollection
  grind

/-- The comment changes nothing about how the line opens. -/
theorem opensAlike (h : CommentInert scopes context (trim line) text) (hline : trim line ≠ [])
    (hn : '\n' ∉ withComment line text)
    (hcontext : ∀ c ∈ context, ∀ d ∈ c.simpleName, isWord d = true) :
    OpensAlike scopes context (Scope.normalize (trim line))
      (Scope.normalize (trim (withComment line text))) := by
  obtain ⟨gap, hgap, heq⟩ := h.strip_eq hline
  have hnewline : '\n' ∉ trim (Annotations.strip (trim (withComment line text))) := fun hmem =>
    hn ((((infix_trim _).trans (Annotations.strip_suffix _).isInfix).trans (infix_trim _)).subset hmem)
  have hblanks : OpensAlike scopes context _ _ := opensAlike_append_blanks hgap (trimEnd_trim _) h.notLone
  unfold Scope.normalize
  rw [heq, ← List.append_assoc] at hnewline ⊢
  refine hblanks.trans (opensAlike_of_extends isCut_slashes h.keywords hcontext (.inl rfl) (.inr ⟨_, rfl⟩)
    fun hshape => ?_)
  exact h.shape_eq rfl hgap hnewline (hblanks.leads.isByShape_eq.symm.trans hshape)
    (hblanks.leads.opens_eq .static)

theorem header_eq (h : CommentInert scopes context (trim line) text) (hline : trim line ≠ []) :
    TypeHeader.ofLine? (trim (withComment line text)) = TypeHeader.ofLine? (trim line) := by
  obtain ⟨gap, hgap, heq⟩ := h.strip_eq hline
  unfold TypeHeader.ofLine?
  rw [← words_trim (Annotations.strip (trim (withComment line text))),
    ← words_trim (Annotations.strip (trim line)), heq, ← List.append_assoc,
    ofWords?_words_of_extends isCut_slashes (.inr ⟨_, rfl⟩), words_append_blanks _ hgap]

/-- In an interface, the comment does not hold the first parenthesis of a member. -/
theorem paren_iff (h : CommentInert scopes context (trim line) text) (hline : trim line ≠ [])
    (hheader : TypeHeader.ofLine? (trim line) = none) (hinterface : context.any (·.isInterface) = true) :
    '(' ∈ Scope.normalize (trim (withComment line text)) ↔ '(' ∈ Scope.normalize (trim line) := by
  obtain ⟨gap, hgap, heq⟩ := h.strip_eq hline
  unfold Scope.normalize
  rw [mem_lower_iff (by decide +kernel), mem_lower_iff (by decide +kernel), heq, List.mem_append]
  refine or_iff_left_of_imp fun hmem => ?_
  rcases List.mem_append.1 hmem with hmem | hmem
  · exact absurd (hgap _ hmem) (by decide)
  · have hcomment : '(' ∈ trimEnd (' ' :: text) := by simpa using hmem
    rw [mem_trim_iff (by decide)]
    exact h.paren (mem_of_mem_trimEnd (by decide) hcomment) (heedsParen_of_isInterface hheader hinterface)

theorem kindAndName_eq (h : CommentInert scopes context (trim line) text) (hline : trim line ≠ [])
    (hkept : isKept (trim line) scopes context = true) (enclosing : Option Text) :
    Declaration.kindAndName (trim (withComment line text)) enclosing =
      Declaration.kindAndName (trim line) enclosing := by
  obtain ⟨gap, hgap, heq⟩ := h.strip_eq hline
  unfold Declaration.kindAndName
  rw [h.header_eq hline]
  cases hheader : TypeHeader.ofLine? (trim line) with
  | some header => rfl
  | none =>
    have hnamed := h.named
    rw [hheader, hkept] at hnamed
    simp only [Option.isSome_none, Bool.false_eq_true, Bool.true_eq_false, false_or] at hnamed
    have hparen := fun hmem => h.paren hmem (heedsParen_of_isKept hheader hkept)
    rw [heq]
    refine Declaration.memberOf_append ?_ enclosing
    have hstrip : '(' ∈ trim (Annotations.strip (trim line)) ↔ '(' ∈ Annotations.strip (trim line) :=
      mem_trim_iff (by decide)
    rw [← hstrip] at hparen hnamed
    by_cases hmem : '(' ∈ trim (Annotations.strip (trim line))
    · exact .inl hmem
    · obtain ⟨c, hc, hends⟩ := hnamed.resolve_left hmem
      refine .inr ⟨fun htail => ?_, c, ?_, hends⟩
      · rcases List.mem_append.1 htail with htail | htail
        · exact absurd (hgap _ htail) (by decide)
        · have htail' : '(' ∈ trimEnd (' ' :: text) := by simpa using htail
          exact hmem (hparen (mem_of_mem_trimEnd (by decide) htail'))
      · exact (mem_trim_iff (Declaration.isBlank_of_endsName hends)).2 hc

/-- The line with its comment is read like the line alone. -/
theorem readAlike (h : CommentInert scopes context (trim line) text) (hline : trim line ≠ [])
    (hn : '\n' ∉ withComment line text)
    (hcontext : ∀ c ∈ context, ∀ d ∈ c.simpleName, isWord d = true) :
    Outline.ReadAlike Eq scopes context (trim line) (trim (withComment line text)) where
  annotations := by
    obtain ⟨gap, -, heq⟩ := h.strip_eq hline
    refine iff_of_false ?_ h.notAnnotations
    unfold IsAnnotations
    rw [heq]
    simp
  header := h.header_eq hline
  scope := (h.opensAlike hline hn hcontext).scope_eq
  kept := (h.opensAlike hline hn hcontext).isKept_eq (h.header_eq hline) (h.paren_iff hline)
  kind hkept := by rw [h.kindAndName_eq hline hkept]
  name hkept := by rw [h.kindAndName_eq hline hkept]

end Line.CommentInert

namespace Outline

/-- The declarations agree but for the signature. -/
def SameButSignature (d d' : Declaration) : Prop :=
  d' = { d with signature := d'.signature }

instance (d d' : Declaration) : Decidable (SameButSignature d d') :=
  inferInstanceAs (Decidable (_ = _))

theorem SameButText.sameButSignature {d d' : Declaration} (h : SameButText Eq d d') :
    SameButSignature d d' := by
  obtain ⟨hkind, hname, hscope, hnumber, hparent, hdoc, hlinks⟩ := h
  cases d
  cases d'
  simp only at hkind hname hscope hnumber hparent hdoc hlinks
  subst hkind hname hscope hnumber hparent hdoc hlinks
  rfl

/-- A comment after the code of a line is inert if its braces match and, at member level, if it cannot be
taken for code: the same lines are skipped, and the declarations are the same but for the signature of the
one on that line. -/
theorem trailing_comment_inert {scopes : ScopeList} {source source' : Text} {before rest : List Text}
    {line text : Text} (hsource : lines source = before ++ line :: rest)
    (hsource' : lines source' = before ++ Line.withComment line text :: rest)
    (hout : (State.after scopes {} 1 before).comment = .outside) (hcode : Line.IsCode (trim line))
    (hbraces : text.count '{' = text.count '}')
    (hinert : (State.after scopes {} 1 before).atMemberLevel = true →
      Line.CommentInert scopes (State.after scopes {} 1 before).context (trim line) text) :
    (ofSource scopes source').skippedLines = (ofSource scopes source).skippedLines ∧
      List.Forall₂
        (fun d d' => SameButSignature d d' ∧ (d.lineNumber ≠ before.length + 1 → d' = d))
        (ofSource scopes source).declarations (ofSource scopes source').declarations := by
  have hn : '\n' ∉ Line.withComment line text :=
    newline_not_mem_of_mem_lines (t := source') (by rw [hsource']; simp)
  have hreads := step_reads scopes (1 + before.length) (State.after scopes {} 1 before) line
  obtain ⟨outcome', hreads', hrelated⟩ := hreads.alike hout hcode (Line.isCode_withComment hcode text)
    (depthAfter_withComment hbraces _ line)
    (fun hlevel => (hinert hlevel).readAlike hcode.1 hn (simpleName_context_after scopes before))
    (fun hlevel hheader => leavesBodyOpen_withComment hbraces fun hmem => (hinert hlevel).body hmem hheader)
  unfold ofSource
  rw [hsource, hsource']
  refine ofOutcomes_related (outcomes_replace (fun d => ⟨rfl, fun _ => rfl⟩) hreads hreads' ?_)
  generalize houtcome : ((State.after scopes {} 1 before).step scopes (1 + before.length) line).2 = outcome
    at hreads hrelated
  cases hrelated with
  | same hnone => exact .same hnone
  | @declared d d' hsame =>
    refine .declared ⟨hsame.sameButSignature, fun hne => absurd ?_ hne⟩
    rw [Nat.add_comm]
    exact hreads.lineNumber

/-- A comment with braces, a parenthesis, an angle bracket and a keyword in it, after a line that has all
it needs. -/
theorem trailing_comment_inert_private :
    let scopes : ScopeList := ⟨["public".toList, "private".toList, "testmethod".toList]⟩
    let line := "  @A('x') static Map<Id, String> f() \x7b ".toList
    let text := "\x7b (a > b) \x7d = tests;".toList
    let source := "public class A \x7b\n".toList ++ line ++ "\nrun();\n\x7d\n\x7d".toList
    let source' := "public class A \x7b\n".toList ++ Line.withComment line text ++
      "\nrun();\n\x7d\n\x7d".toList
    (ofSource scopes source').declarations.map (·.scope) =
        [some "public".toList, some "private".toList] ∧
      (ofSource scopes source').skippedLines = (ofSource scopes source).skippedLines ∧
      List.Forall₂ (fun d d' => SameButSignature d d' ∧ (d.lineNumber ≠ 2 → d' = d))
        (ofSource scopes source).declarations (ofSource scopes source').declarations := by
  intro scopes line text source source'
  have hsource : lines source =
      ["public class A \x7b".toList] ++ line :: ["run();".toList, ['\x7d'], ['\x7d']] := by
    decide +kernel
  have hsource' : lines source' = ["public class A \x7b".toList] ++
      Line.withComment line text :: ["run();".toList, ['\x7d'], ['\x7d']] := by
    decide +kernel
  refine ⟨by decide +kernel, trailing_comment_inert hsource hsource' (by decide +kernel) (by decide +kernel)
    (by decide +kernel) fun _ => ?_⟩
  constructor <;> decide +kernel

/-- None of the conditions can be dropped. On each of these lines, which stand at member level, the comment
changes more than a signature. -/
theorem trailing_comment_matters :
    let before := "public class A \x7b".toList
    let source (line : Text) : Text := before ++ '\n' :: line ++ "\npublic Integer z;\n\x7d".toList
    ∀ p ∈ ([
        -- The braces of the comment do not match.
        (["public"], "public void f() \x7b", "\x7d"),
        -- A listed keyword reaches into the comment.
        (["public", "x // y"], "x", "y z;"),
        -- The line holds annotations only.
        (["public"], "@IsTest", "note"),
        -- The line is a keyword only.
        (["public"], "public", "note"),
        -- The comment closes an argument list.
        (["public"], "@A(x", "y) public Integer i;"),
        -- The name of the member does not end before the comment.
        (["public"], "public Integer i", "note"),
        -- The comment holds the first brace of a type header.
        (["public"], "public class B", "\x7b\x7d"),
        -- The comment holds the first parenthesis.
        (["public"], "public Integer i;", "(note)"),
        -- The comment closes the parameters of a collection.
        (["private"], "List<Id f(", ">"),
        -- The comment holds the keyword of tests.
        (["private"], "static Integer i;", "testMethod")] :
        List (List String × String × String)),
      Line.IsCode (trim p.2.1.toList) ∧
        (State.after ⟨p.1.map String.toList⟩ {} 1 [before]).comment = .outside ∧
        ¬ ((ofSource ⟨p.1.map String.toList⟩
              (source (Line.withComment p.2.1.toList p.2.2.toList))).skippedLines =
            (ofSource ⟨p.1.map String.toList⟩ (source p.2.1.toList)).skippedLines ∧
          List.Forall₂ SameButSignature
            (ofSource ⟨p.1.map String.toList⟩ (source p.2.1.toList)).declarations
            (ofSource ⟨p.1.map String.toList⟩
              (source (Line.withComment p.2.1.toList p.2.2.toList))).declarations) := by
  decide +kernel

end Outline

end ApexOutline
