import ApexOutline.Proofs.Outline.Reading
import ApexOutline.Proofs.Text.AsciiCase
import Mathlib.Data.List.Forall2
/-!
# Outlines up to the case of ASCII letters

Changing the case of ASCII letters changes nothing but the case of the letters in what is read. All
that is read off a line commutes with `lowerAscii` or does not see it; `foldCase` brings a state and
an outcome into small letters, and `step_foldCase` says that a step commutes with it. Two sources that
differ in case alone have the same image, so their outlines agree (`outline_ignores_ascii_case`).
-/

namespace ApexOutline

open Text

/-! ## What is read off a line -/

namespace Annotations

theorem caseBlind_isArgument : CaseBlind isArgument :=
  caseBlind_of_capitals (by decide)

theorem afterArguments?_lowerAscii (t : Text) :
    afterArguments? (lowerAscii t) = (afterArguments? t).map lowerAscii := by
  unfold afterArguments?
  rw [trimStart_lowerAscii]
  cases trimStart t with
  | nil => rfl
  | cons c r =>
    rw [lowerAscii_cons]
    by_cases hc : c = '('
    · subst hc
      have hopen : '('.toLower = '(' := rfl
      simp only [hopen, dropWhile_lowerAscii caseBlind_isArgument]
      cases r.dropWhile isArgument with
      | nil => rfl
      | cons d rest =>
        rw [lowerAscii_cons]
        by_cases hd : d = ')'
        · subst hd
          rfl
        · have hd' : d.toLower ≠ ')' := fun h => hd ((toLower_eq_iff (by decide)).1 h)
          simp [hd, hd']
    · have hc' : c.toLower ≠ '(' := fun h => hc ((toLower_eq_iff (by decide)).1 h)
      simp [hc, hc']

theorem after?_lowerAscii (line : Text) :
    after? (lowerAscii line) = (after? line).map lowerAscii := by
  unfold after?
  rw [trimStart_lowerAscii]
  cases trimStart line with
  | nil => rfl
  | cons c r =>
    rw [lowerAscii_cons]
    by_cases hc : c = '@'
    · subst hc
      cases r with
      | nil => rfl
      | cons d r =>
        have hat : '@'.toLower = '@' := rfl
        simp only [hat, lowerAscii_cons, caseBlind_isWord d, dropWhile_lowerAscii caseBlind_isWord,
          afterArguments?_lowerAscii, Option.getD_map, trimStart_lowerAscii]
        split <;> rfl
    · have hc' : c.toLower ≠ '@' := fun h => hc ((toLower_eq_iff (by decide)).1 h)
      simp [hc, hc']

theorem stripUpTo_lowerAscii (n : Nat) (line : Text) :
    stripUpTo n (lowerAscii line) = lowerAscii (stripUpTo n line) := by
  induction n generalizing line with
  | zero => rfl
  | succ n ih =>
    unfold stripUpTo
    rw [after?_lowerAscii]
    cases after? line with
    | none => rfl
    | some rest => exact ih rest

theorem strip_lowerAscii (line : Text) : strip (lowerAscii line) = lowerAscii (strip line) :=
  stripUpTo_lowerAscii limit line

end Annotations

namespace TypeHeader

/-- The header with its name in small letters. -/
def foldCase (header : TypeHeader) : TypeHeader :=
  { header with name := lowerAscii header.name }

theorem isModifier_lowerAscii (word : Text) : isModifier (lowerAscii word) = isModifier word := by
  unfold isModifier
  simp only [foldsTo_lowerAscii]

theorem ofWord?_lowerAscii (word : Text) :
    TypeKeyword.ofWord? (lowerAscii word) = TypeKeyword.ofWord? word := by
  unfold TypeKeyword.ofWord?
  simp only [foldsTo_lowerAscii]

theorem ofWords?_lowerAscii (ws : List Text) :
    ofWords? (ws.map lowerAscii) = (ofWords? ws).map foldCase := by
  have hmodifier : isModifier ∘ lowerAscii = isModifier := funext isModifier_lowerAscii
  unfold ofWords?
  rw [List.dropWhile_map, hmodifier]
  cases ws.dropWhile isModifier with
  | nil => rfl
  | cons word rest =>
    cases rest with
    | nil => rfl
    | cons next rest =>
      simp only [List.map_cons, ofWord?_lowerAscii, takeWhile_lowerAscii caseBlind_isWord]
      cases TypeKeyword.ofWord? word with
      | none => rfl
      | some keyword => cases next.takeWhile isWord <;> rfl

theorem ofLine?_lowerAscii (line : Text) : ofLine? (lowerAscii line) = (ofLine? line).map foldCase := by
  unfold ofLine?
  rw [Annotations.strip_lowerAscii, words_lowerAscii, ofWords?_lowerAscii]

end TypeHeader

namespace Declaration

theorem caseBlind_endsName : CaseBlind endsName :=
  caseBlind_of_capitals (by decide)

theorem nonEmpty?_lowerAscii (word : Text) :
    nonEmpty? (lowerAscii word) = (nonEmpty? word).map lowerAscii := by
  unfold nonEmpty?
  rw [isEmpty_lowerAscii]
  split <;> rfl

theorem memberOf_lowerAscii (stripped : Text) (enclosing : Option Text) :
    memberOf (lowerAscii stripped) enclosing =
      ((memberOf stripped enclosing).1, (memberOf stripped enclosing).2.map lowerAscii) := by
  have hparen : CaseBlind (· != '(') := (caseBlind_beq (by decide)).comp (!·)
  have hends : CaseBlind (!endsName ·) := caseBlind_endsName.comp (!·)
  unfold memberOf
  rw [contains_lowerAscii (by decide)]
  simp only [takeWhile_lowerAscii hparen, takeWhile_lowerAscii hends, length_lowerAscii,
    wordBefore_lowerAscii, nonEmpty?_lowerAscii]
  split
  · rw [Option.isSome_map, Option.map_map, show lower ∘ lowerAscii = lower from funext lower_lowerAscii]
  · rfl

theorem kindAndName_lowerAscii (line : Text) (enclosing : Option Text) :
    kindAndName (lowerAscii line) enclosing =
      ((kindAndName line enclosing).1, (kindAndName line enclosing).2.map lowerAscii) := by
  unfold kindAndName
  rw [TypeHeader.ofLine?_lowerAscii, Annotations.strip_lowerAscii, trim_lowerAscii]
  cases TypeHeader.ofLine? line with
  | none => exact memberOf_lowerAscii _ _
  | some header => rfl

end Declaration

theorem Scope.normalize_lowerAscii (line : Text) : normalize (lowerAscii line) = normalize line := by
  unfold normalize
  rw [Annotations.strip_lowerAscii, trim_lowerAscii, lower_lowerAscii]

theorem Scope.ofLine?_lowerAscii (line : Text) (scopes : ScopeList) :
    ofLine? (lowerAscii line) scopes = ofLine? line scopes := by
  unfold ofLine?
  rw [normalize_lowerAscii]

/-- The context with its name in small letters. -/
def Context.foldCase (context : Context) : Context :=
  { context with name := lowerAscii context.name }

theorem Context.simpleName_foldCase (context : Context) :
    context.foldCase.simpleName = lowerAscii context.simpleName := by
  unfold simpleName foldCase
  rw [splitOnP_lowerAscii (caseBlind_beq (by decide))]
  rw [List.getLastD_eq_getLast?, List.getLastD_eq_getLast?, List.getLast?_map]
  exact Option.getD_map lowerAscii [] _

namespace Line

theorem isKeptIn_foldCase (context : Context) (normal : Text) :
    isKeptIn context.foldCase normal = isKeptIn context normal := by
  unfold isKeptIn opensConstructor
  rw [context.simpleName_foldCase, isEmpty_lowerAscii, lower_lowerAscii]
  rfl

theorem isKept_lowerAscii (line : Text) (scopes : ScopeList) (context : Option Context) :
    isKept (lowerAscii line) scopes (context.map Context.foldCase) = isKept line scopes context := by
  unfold isKept
  rw [Scope.ofLine?_lowerAscii, Scope.normalize_lowerAscii, TypeHeader.ofLine?_lowerAscii,
    Option.isSome_map]
  cases context with
  | none => rfl
  | some context =>
    simp only [Option.map_some, Option.any_some, isKeptIn_foldCase]

theorem isRemark_lowerAscii {line : Text} : IsRemark (lowerAscii line) ↔ IsRemark line := by
  unfold IsRemark
  rw [lowerAscii_eq_nil, prefix_lowerAscii_iff (by decide)]

theorem isCode_lowerAscii {line : Text} : IsCode (lowerAscii line) ↔ IsCode line := by
  rw [isCode_iff, isCode_iff, isRemark_lowerAscii, prefix_lowerAscii_iff (by decide)]

theorem isAnnotations_lowerAscii {line : Text} :
    IsAnnotations (lowerAscii line) ↔ IsAnnotations line := by
  unfold IsAnnotations
  rw [Annotations.strip_lowerAscii, trim_lowerAscii, lowerAscii_eq_nil]

end Line

namespace DocComment

theorem lineText_lowerAscii (line : Text) : lineText (lowerAscii line) = lowerAscii (lineText line) := by
  unfold lineText
  simp only [trim_lowerAscii, before?_lowerAscii (show IsSymbols "*/".toList by decide),
    Option.getD_map, dropWhile_lowerAscii (caseBlind_beq (b := '*') (by decide))]

theorem ofLines?_lowerAscii (ls : List Text) :
    ofLines? (ls.map lowerAscii) = (ofLines? ls).map lowerAscii := by
  have hjoin : join ['\n'] (ls.map lowerAscii) = lowerAscii (join ['\n'] ls) :=
    join_lowerAscii ['\n'] ls
  unfold ofLines?
  rw [hjoin, trim_lowerAscii]
  cases trim (join ['\n'] ls) <;> rfl

end DocComment

/-! ## States and outcomes in small letters -/

/-- The declaration with its texts in small letters, and without its links: whether a text is a link
depends on case. -/
def Declaration.foldCase (d : Declaration) : Declaration :=
  { d with
    name := d.name.map lowerAscii
    signature := lowerAscii d.signature
    parent := d.parent.map lowerAscii
    docComment := d.docComment.map lowerAscii
    links := [] }

/-- Two declarations agree but for the case of ASCII letters and for their links. -/
structure Declaration.SameButCase (d d' : Declaration) : Prop where
  kind : d.kind = d'.kind
  name : d.name.map lowerAscii = d'.name.map lowerAscii
  scope : d.scope = d'.scope
  lineNumber : d.lineNumber = d'.lineNumber
  signature : lowerAscii d.signature = lowerAscii d'.signature
  parent : d.parent.map lowerAscii = d'.parent.map lowerAscii
  docComment : d.docComment.map lowerAscii = d'.docComment.map lowerAscii

theorem Declaration.SameButCase.of_foldCase {d d' : Declaration} (h : d.foldCase = d'.foldCase) :
    SameButCase d d' := by
  unfold foldCase at h
  obtain ⟨hkind, hname, hscope, hnumber, hsignature, hparent, hdoc, -⟩ := Declaration.mk.inj h
  exact ⟨hkind, hname, hscope, hnumber, hsignature, hparent, hdoc⟩

namespace Outline

/-- The open type with its name in small letters. -/
def OpenType.foldCase (t : OpenType) : OpenType :=
  { t with context := t.context.foldCase }

/-- The state with its texts in small letters. -/
def State.foldCase (s : State) : State :=
  { s with openTypes := s.openTypes.map OpenType.foldCase, pendingDoc := s.pendingDoc.map lowerAscii }

/-- The outcome with its texts in small letters. -/
def Outcome.foldCase : Outcome → Outcome
  | .declared d => .declared d.foldCase
  | o => o

theorem qualifiedName_lowerAscii (parent : Option Text) (name : Text) :
    qualifiedName (parent.map lowerAscii) (lowerAscii name) = lowerAscii (qualifiedName parent name) := by
  cases parent with
  | none => rfl
  | some p => exact (lowerAscii_append p ('.' :: name)).symm

namespace State

theorem context_foldCase (s : State) : s.foldCase.context = s.context.map Context.foldCase := by
  unfold context foldCase
  rw [List.head?_map, Option.map_map, Option.map_map]
  rfl

theorem atMemberLevel_foldCase (s : State) : s.foldCase.atMemberLevel = s.atMemberLevel := by
  unfold atMemberLevel foldCase
  cases s.openTypes <;> rfl

theorem stillOpen_foldCase (depth : Nat) (types : List OpenType) :
    stillOpen depth (types.map OpenType.foldCase) =
      (stillOpen depth types).map OpenType.foldCase := by
  induction types with
  | nil => rfl
  | cons t rest ih =>
    simp only [List.map_cons, stillOpen]
    have hdepth : t.foldCase.bodyDepth = t.bodyDepth := rfl
    have hopened : t.foldCase.opened = t.opened := rfl
    rw [hdepth, hopened]
    split
    · rfl
    split
    · exact ih
    · rfl

theorem applyBraces_foldCase (s : State) (line : Text) :
    s.foldCase.applyBraces (lowerAscii line) = (s.applyBraces line).foldCase := by
  have hdepth : depthAfter s.foldCase.depth (lowerAscii line) = depthAfter s.depth line := by
    unfold depthAfter
    rw [count_lowerAscii (by decide), count_lowerAscii (by decide)]
    rfl
  unfold applyBraces
  rw [hdepth]
  unfold foldCase
  dsimp only
  rw [stillOpen_foldCase]

theorem past_foldCase (s : State) (types : List OpenType) (line : Text) :
    s.foldCase.past (types.map OpenType.foldCase) (lowerAscii line) = (s.past types line).foldCase :=
  applyBraces_foldCase { s with pendingDoc := [], openTypes := types } line

theorem continueComment_foldCase (s : State) (line : Text) :
    s.foldCase.continueComment (lowerAscii line) = (s.continueComment line).foldCase := by
  unfold continueComment foldCase
  dsimp only
  rw [has_lowerAscii (by decide), DocComment.lineText_lowerAscii, apply_ite (List.map lowerAscii),
    List.map_append]
  rfl

theorem openComment_foldCase (s : State) (line : Text) :
    s.foldCase.openComment (lowerAscii line) = (s.openComment line).foldCase := by
  have hdoc : opensDoc (lowerAscii line) = opensDoc line := by
    unfold opensDoc
    rw [isPrefixOf_lowerAscii (by decide), isPrefixOf_lowerAscii (by decide)]
  unfold openComment
  rw [hdoc, lowerAscii_drop, lowerAscii_drop, has_lowerAscii (by decide), DocComment.lineText_lowerAscii]
  unfold foldCase
  dsimp only
  rw [apply_ite (List.map lowerAscii)]
  rfl

theorem enclosing_foldCase (s : State) :
    s.foldCase.context.map (lower ·.simpleName) = s.context.map (lower ·.simpleName) := by
  rw [s.context_foldCase, Option.map_map]
  congr 1
  funext context
  simp only [Function.comp, context.simpleName_foldCase, lower_lowerAscii]

theorem parent_foldCase (s : State) :
    s.foldCase.context.map (·.name) = (s.context.map (·.name)).map lowerAscii := by
  rw [s.context_foldCase, Option.map_map, Option.map_map]
  rfl

/-- The declaration on a line in small letters is the declaration on the line but for case. -/
theorem declare_foldCase (s : State) (scopes : ScopeList) (number : Nat) (line : Text) :
    (s.foldCase.declare scopes number (lowerAscii line)).foldCase =
      (s.declare scopes number line).foldCase := by
  unfold declare Declaration.foldCase
  have hdoc : DocComment.ofLines? s.foldCase.pendingDoc = (DocComment.ofLines? s.pendingDoc).map lowerAscii :=
    DocComment.ofLines?_lowerAscii s.pendingDoc
  have hidem (o : Option Text) : (o.map lowerAscii).map lowerAscii = o.map lowerAscii := by
    cases o <;> simp
  simp only [s.enclosing_foldCase, s.parent_foldCase, Declaration.kindAndName_lowerAscii,
    Scope.ofLine?_lowerAscii, hdoc, hidem, lowerAscii_lowerAscii]

theorem openTypesAfter_foldCase (s : State) (scopes : ScopeList) (number : Nat) (line : Text) :
    s.foldCase.openTypesAfter (s.foldCase.declare scopes number (lowerAscii line)) (lowerAscii line) =
      (s.openTypesAfter (s.declare scopes number line) line).map OpenType.foldCase := by
  have hopen : leavesBodyOpen (lowerAscii line) = leavesBodyOpen line := by
    unfold leavesBodyOpen
    rw [count_lowerAscii (by decide), count_lowerAscii (by decide), contains_lowerAscii (by decide)]
  have hkind : (s.foldCase.declare scopes number (lowerAscii line)).kind =
      (s.declare scopes number line).kind := by
    unfold declare
    simp only [s.enclosing_foldCase, Declaration.kindAndName_lowerAscii]
  have hname : (s.foldCase.declare scopes number (lowerAscii line)).name =
      (s.declare scopes number line).name.map lowerAscii := by
    unfold declare
    simp only [s.enclosing_foldCase, Declaration.kindAndName_lowerAscii]
  have hparent : (s.foldCase.declare scopes number (lowerAscii line)).parent =
      (s.declare scopes number line).parent.map lowerAscii := s.parent_foldCase
  unfold openTypesAfter
  rw [hkind, hname, hparent, hopen]
  cases (s.declare scopes number line).kind with
  | constructor | method | property => rfl
  | type keyword =>
    cases (s.declare scopes number line).name with
    | none => rfl
    | some name =>
      dsimp only [Option.map_some]
      rw [qualifiedName_lowerAscii]
      split <;> rfl

end State

/-! ## Steps and runs -/

variable {scopes : ScopeList} {number : Nat} {s s' : State} {line : Text} {outcome : Outcome}

theorem reads_foldCase (h : Reads scopes number s line s' outcome) :
    ∃ outcome', Reads scopes number s.foldCase (lowerAscii line) s'.foldCase outcome' ∧
      outcome'.foldCase = outcome.foldCase := by
  have hlevel := s.atMemberLevel_foldCase
  have hkept := Line.isKept_lowerAscii line scopes s.context
  rw [← s.context_foldCase] at hkept
  cases h with
  | comment hin =>
    rw [← s.continueComment_foldCase]
    exact ⟨_, .comment hin, rfl⟩
  | blank hout h => exact ⟨_, .blank hout (Line.isRemark_lowerAscii.2 h), rfl⟩
  | opening hout h =>
    rw [← s.openComment_foldCase]
    exact ⟨_, .opening hout ((prefix_lowerAscii_iff (by decide)).2 h), rfl⟩
  | below hout hcode h =>
    rw [← s.applyBraces_foldCase]
    exact ⟨_, .below hout (Line.isCode_lowerAscii.2 hcode) (hlevel.trans h), rfl⟩
  | annotations hout hcode h hann =>
    exact ⟨_, .annotations hout (Line.isCode_lowerAscii.2 hcode) (hlevel.trans h)
      (Line.isAnnotations_lowerAscii.2 hann), rfl⟩
  | declared hout hcode h hann hk =>
    rw [← s.past_foldCase, ← s.openTypesAfter_foldCase]
    refine ⟨_, .declared hout (Line.isCode_lowerAscii.2 hcode) (hlevel.trans h)
      (mt Line.isAnnotations_lowerAscii.1 hann) (hkept.trans hk), ?_⟩
    exact congrArg Outcome.declared (s.declare_foldCase scopes number line)
  | skipped hout hcode h hann hk =>
    rw [← s.past_foldCase]
    exact ⟨_, .skipped hout (Line.isCode_lowerAscii.2 hcode) (hlevel.trans h)
      (mt Line.isAnnotations_lowerAscii.1 hann) (hkept.trans hk), rfl⟩

/-- Reading a line commutes with bringing everything into small letters. -/
theorem step_foldCase (scopes : ScopeList) (number : Nat) (s : State) (line : Text) :
    (s.foldCase.step scopes number (lowerAscii line)).1 = (s.step scopes number line).1.foldCase ∧
      (s.foldCase.step scopes number (lowerAscii line)).2.foldCase =
        (s.step scopes number line).2.foldCase := by
  obtain ⟨outcome', hreads, houtcome⟩ := reads_foldCase (step_reads scopes number s line)
  rw [← trim_lowerAscii] at hreads
  rw [hreads.step_eq]
  exact ⟨rfl, houtcome⟩

theorem outcomes_foldCase (scopes : ScopeList) (s : State) (number : Nat) (ls : List Text) :
    (outcomes scopes s.foldCase number (ls.map lowerAscii)).map Outcome.foldCase =
      (outcomes scopes s number ls).map Outcome.foldCase := by
  induction ls generalizing s number with
  | nil => rfl
  | cons line ls ih =>
    obtain ⟨hstate, houtcome⟩ := step_foldCase scopes number s line
    simp only [List.map_cons, outcomes]
    rw [hstate, houtcome, ih]

/-! ## Outlines -/

theorem count_skipped_foldCase (os : List Outcome) :
    (os.map Outcome.foldCase).count .skipped = os.count .skipped := by
  rw [List.count, List.countP_map]
  congr 1
  funext o
  cases o <;> rfl

theorem declarations_foldCase (os : List Outcome) :
    (os.map Outcome.foldCase).filterMap Outcome.declaration? =
      (os.filterMap Outcome.declaration?).map Declaration.foldCase := by
  rw [List.filterMap_map, List.map_filterMap]
  congr 1
  funext o
  cases o <;> rfl

/-- The source in small letters has the same outline but for case. -/
theorem ofSource_lowerAscii (scopes : ScopeList) (source : Text) :
    (ofSource scopes (lowerAscii source)).skippedLines = (ofSource scopes source).skippedLines ∧
      (ofSource scopes (lowerAscii source)).declarations.map Declaration.foldCase =
        (ofSource scopes source).declarations.map Declaration.foldCase := by
  have h := outcomes_foldCase scopes {} 1 (lines source)
  rw [← lines_lowerAscii, show State.foldCase {} = {} from rfl] at h
  unfold ofSource ofOutcomes
  dsimp only
  constructor
  · rw [← count_skipped_foldCase, h, count_skipped_foldCase]
  · rw [← declarations_foldCase, h, declarations_foldCase]

/-- Scanning ignores the case of ASCII letters. Sources that differ in nothing else have as many skipped
lines, and the same declarations in order, but for the case of letters and for links. -/
theorem outline_ignores_ascii_case (scopes : ScopeList) {source source' : Text}
    (h : eqIgnoringAsciiCase source source' = true) :
    (ofSource scopes source).skippedLines = (ofSource scopes source').skippedLines ∧
      List.Forall₂ Declaration.SameButCase (ofSource scopes source).declarations
        (ofSource scopes source').declarations := by
  have heq : lowerAscii source = lowerAscii source' := eq_of_beq h
  obtain ⟨hskipped, hdeclared⟩ := ofSource_lowerAscii scopes source
  obtain ⟨hskipped', hdeclared'⟩ := ofSource_lowerAscii scopes source'
  rw [heq] at hskipped hdeclared
  refine ⟨hskipped.symm.trans hskipped', ?_⟩
  have hmaps := hdeclared.symm.trans hdeclared'
  rw [← List.forall₂_eq_eq_eq, List.forall₂_map_left_iff, List.forall₂_map_right_iff] at hmaps
  exact hmaps.imp fun _ _ => Declaration.SameButCase.of_foldCase

/-- A class whose name ends in a capital sigma, with a constructor that spells it in other letters. -/
theorem outline_ignores_ascii_case_sigma :
    let scopes : ScopeList := ⟨["Public".toList]⟩
    let source := "public class fooΣ \x7b\n/** Doc. */\nFooΣ() \x7b\x7d\nint x;\n\x7d".toList
    let source' := "PUBLIC Class FOOΣ \x7b\n/** dOC. */\nfOoΣ() \x7b\x7d\nINT x;\n\x7d".toList
    eqIgnoringAsciiCase source source' = true ∧
      (ofSource scopes source).declarations.map (·.kind) = [.type .classWord, .constructor] ∧
      (ofSource scopes source).skippedLines = (ofSource scopes source').skippedLines ∧
      List.Forall₂ Declaration.SameButCase (ofSource scopes source).declarations
        (ofSource scopes source').declarations :=
  ⟨by decide +kernel, by decide +kernel, outline_ignores_ascii_case _ (by decide +kernel)⟩

end Outline

end ApexOutline
