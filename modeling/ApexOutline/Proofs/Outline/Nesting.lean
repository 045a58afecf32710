import ApexOutline.Proofs.Outline.Reading
import ApexOutline.Proofs.TypeHeader
import Mathlib.Algebra.Ring.Int.Defs
/-!
# Nesting

A source that is laid out as a forest of types, blocks and one-line items is outlined item by item:
`outline_of_forest` says that the declarations are those of the items, in the order of the source,
each with the dotted name of the types around it as its parent. The reader only counts braces and
keeps a stack of open types, so the proof says which state it is in at every place of the forest
(`stateIn`): the depth is the number of enclosing types, all of which are open.
-/

namespace ApexOutline.Outline

open Text

/-! ## Forests of items -/

/-- Where the brace that opens a body stands: at the end of the head line, or on a line of its own. -/
inductive BracePlace where
  | sameLine
  | nextLine
  deriving DecidableEq, Repr

/-- The head line with its brace, when that stands on the same line. -/
def BracePlace.headLine (head : Text) : BracePlace → Text
  | .sameLine => head ++ [' ', '{']
  | .nextLine => head

/-- The line between the head line and the body. -/
def BracePlace.braceLines : BracePlace → List Text
  | .sameLine => []
  | .nextLine => [['{']]

/-- No brace stands in the text. -/
def BraceFree (t : Text) : Prop :=
  t.count '{' = 0 ∧ t.count '}' = 0

/-- How many more braces a line opens than it closes. -/
def braceSum (line : Text) : Int :=
  line.count '{' - line.count '}'

/-- The line is code that can stand at member level: neither blank, nor a comment, nor annotations
only. -/
def IsMember (line : Text) : Prop :=
  Line.IsCode (trim line) ∧ ¬ Line.IsAnnotations (trim line)

instance (t : Text) : Decidable (BraceFree t) :=
  inferInstanceAs (Decidable (_ ∧ _))

instance (line : Text) : Decidable (IsMember line) :=
  inferInstanceAs (Decidable (_ ∧ _))

/-- The header of a type without its brace. -/
structure TypeHead where
  text : Text
  header : TypeHeader
  isHeader : TypeHeader.ofLine? text = some header
  braceFree : BraceFree text

/-- A member with a body of its own that is no type, such as a method or an accessor. The body
closes every brace that it opens, and no line of it closes the body. -/
structure Block where
  head : Text
  place : BracePlace
  body : List Text
  isMember : IsMember (place.headLine head)
  notHeader : TypeHeader.ofLine? (place.headLine head) = none
  braceFree : BraceFree head
  bodyCode : ∀ line ∈ body, Line.IsCode (trim line)
  bodyOpen : ∀ n, 0 ≤ ((body.take n).map braceSum).sum
  bodyClosed : (body.map braceSum).sum = 0

/-- An item on one line, which closes every brace that it opens. A type on one line has its body
there. -/
structure OneLine where
  text : Text
  isMember : IsMember text
  balanced : text.count '{' = text.count '}'
  bodyThere : (TypeHeader.ofLine? text).isSome → '{' ∈ text

/-- Items one after the other: types with the items in their bodies, blocks, and one-line items. -/
inductive Forest where
  | nil
  | type (head : TypeHead) (place : BracePlace) (children rest : Forest)
  | block (b : Block) (rest : Forest)
  | oneLine (item : OneLine) (rest : Forest)

/-- The lines of a forest. -/
def Forest.lines : Forest → List Text
  | .nil => []
  | .type head place children rest =>
    (place.headLine head.text :: place.braceLines) ++ children.lines ++ [['}']] ++ rest.lines
  | .block b rest =>
    (b.place.headLine b.head :: b.place.braceLines) ++ b.body ++ [['}']] ++ rest.lines
  | .oneLine item rest => item.text :: rest.lines

/-- The lines of a source are those of the forest, each with any blanks around it. -/
def Forest.Renders (forest : Forest) (source : Text) : Prop :=
  (Text.lines source).map trim = forest.lines.map trim

/-! ## What a forest declares -/

/-- The dotted name of nested types, the innermost first. -/
def dottedName (enclosing : List TypeHead) : Text :=
  join ['.'] (enclosing.reverse.map (·.header.name))

/-- The innermost of nested types as the context of a line. -/
def contextIn : List TypeHead → Option Context
  | [] => none
  | head :: outer => some ⟨dottedName (head :: outer), head.header.keyword = .interfaceWord⟩

/-- The declaration of a line inside nested types, with no doc comment. -/
def declarationIn (scopes : ScopeList) (enclosing : List TypeHead) (number : Nat) (line : Text)
    (found : Declaration.Kind × Option Text) : Declaration :=
  { kind := found.1
    name := found.2
    scope := Scope.ofLine? line scopes
    lineNumber := number
    signature := line
    parent := (contextIn enclosing).map (·.name)
    docComment := none
    links := [] }

/-- The declaration of a member inside nested types, if the member is kept there. -/
def memberIn (scopes : ScopeList) (enclosing : List TypeHead) (number : Nat) (line : Text) :
    List Declaration :=
  if Line.isKept line scopes (contextIn enclosing) then
    [declarationIn scopes enclosing number line
      (Declaration.kindAndName line (enclosing.head?.map (lower ·.header.name)))]
  else []

/-- The declarations of a forest inside nested types in pre-order, its first line having the given
number: one for every type, and one for every block or one-line item that is kept. -/
def Forest.declarations (scopes : ScopeList) (enclosing : List TypeHead) (number : Nat) :
    Forest → List Declaration
  | .nil => []
  | .type head place children rest =>
    let body := number + 1 + place.braceLines.length
    declarationIn scopes enclosing number (trim (place.headLine head.text))
        (.type head.header.keyword, some head.header.name) ::
      (children.declarations scopes (head :: enclosing) body ++
        rest.declarations scopes enclosing (body + children.lines.length + 1))
  | .block b rest =>
    let body := number + 1 + b.place.braceLines.length
    memberIn scopes enclosing number (trim (b.place.headLine b.head)) ++
      rest.declarations scopes enclosing (body + b.body.length + 1)
  | .oneLine item rest =>
    memberIn scopes enclosing number (trim item.text) ++
      rest.declarations scopes enclosing (number + 1)

/-! ## Names of nested types -/

theorem dottedName_singleton (head : TypeHead) : dottedName [head] = head.header.name := by
  simp [dottedName, join]

theorem dottedName_cons {outer : List TypeHead} (h : outer ≠ []) (head : TypeHead) :
    dottedName (head :: outer) = dottedName outer ++ '.' :: head.header.name := by
  have hjoin : ∀ (names : List Text) (name : Text), names ≠ [] →
      join ['.'] (names ++ [name]) = join ['.'] names ++ '.' :: name := by
    intro names name hne
    induction names with
    | nil => exact absurd rfl hne
    | cons first names ih =>
      cases names with
      | nil => simp [join, List.intercalate_cons_cons]
      | cons second names =>
        simp only [join, List.cons_append, List.intercalate_cons_cons] at ih ⊢
        rw [ih (List.cons_ne_nil _ _)]
        simp
  unfold dottedName
  rw [List.reverse_cons, List.map_append, List.map_cons, List.map_nil]
  exact hjoin _ _ (by simpa using h)

theorem qualifiedName_contextIn (enclosing : List TypeHead) (head : TypeHead) :
    qualifiedName ((contextIn enclosing).map (·.name)) head.header.name =
      dottedName (head :: enclosing) := by
  cases enclosing with
  | nil => exact (dottedName_singleton head).symm
  | cons inner outer => exact (dottedName_cons (List.cons_ne_nil inner outer) head).symm

theorem TypeHead.dot_not_mem (head : TypeHead) : ∀ c ∈ head.header.name, (c == '.') = false := by
  intro c hc
  have hword := (TypeHeader.name_of_ofLine? head.isHeader).2 c hc
  by_contra hdot
  rw [Bool.not_eq_false, beq_iff_eq] at hdot
  subst hdot
  exact absurd hword (by decide)

/-- The simple name of nested types is the name of the innermost one, which holds no dot. -/
theorem simpleName_contextIn (enclosing : List TypeHead) :
    (contextIn enclosing).map (lower ·.simpleName) = enclosing.head?.map (lower ·.header.name) := by
  cases enclosing with
  | nil => rfl
  | cons head outer =>
    have hname := List.splitOnP_eq_singleton head.dot_not_mem
    have hsimple : (dottedName (head :: outer)).splitOnP (· == '.') =
        (if outer = [] then [] else (dottedName outer).splitOnP (· == '.')) ++ [head.header.name] := by
      split
      · rename_i houter
        rw [houter, dottedName_singleton, hname, List.nil_append]
      · rename_i houter
        rw [dottedName_cons houter, List.splitOnP_append_cons _ _ (by decide), hname]
    simp [contextIn, Context.simpleName, hsimple]

/-! ## The state inside nested types -/

/-- The open types inside nested types: all bodies have been reached. -/
def openTypesIn : List TypeHead → List OpenType
  | [] => []
  | head :: outer =>
    ⟨⟨dottedName (head :: outer), head.header.keyword = .interfaceWord⟩, outer.length + 1, true⟩ ::
      openTypesIn outer

/-- The state at some depth inside nested types. -/
def stateAt (depth : Nat) (enclosing : List TypeHead) : State :=
  { depth, openTypes := openTypesIn enclosing }

/-- The state between two items inside nested types. -/
def stateIn (enclosing : List TypeHead) : State :=
  stateAt enclosing.length enclosing

theorem context_stateIn (enclosing : List TypeHead) : (stateIn enclosing).context = contextIn enclosing := by
  cases enclosing <;> rfl

theorem atMemberLevel_stateIn (enclosing : List TypeHead) : (stateIn enclosing).atMemberLevel = true := by
  cases enclosing <;> simp [stateIn, stateAt, State.atMemberLevel, openTypesIn]

theorem atMemberLevel_stateAt {enclosing : List TypeHead} {depth : Nat} (h : enclosing.length < depth) :
    (stateAt depth enclosing).atMemberLevel = false := by
  cases enclosing with
  | nil => simpa [stateAt, State.atMemberLevel, openTypesIn] using Nat.ne_of_gt h
  | cons head outer => exact decide_eq_false (Nat.not_le.2 h)

theorem stillOpen_openTypesIn {enclosing : List TypeHead} {depth : Nat} (h : enclosing.length ≤ depth) :
    State.stillOpen depth (openTypesIn enclosing) = openTypesIn enclosing := by
  cases enclosing with
  | nil => rfl
  | cons head outer => simp_all [openTypesIn, State.stillOpen]

/-- One brace below the body of the innermost type, that type is closed and no other. -/
theorem stillOpen_openTypesIn_cons (head : TypeHead) (outer : List TypeHead) :
    State.stillOpen outer.length (openTypesIn (head :: outer)) = openTypesIn outer := by
  simp only [openTypesIn, State.stillOpen]
  rw [if_neg (by omega), if_pos trivial, stillOpen_openTypesIn le_rfl]

theorem declare_stateIn (scopes : ScopeList) (enclosing : List TypeHead) (number : Nat) (line : Text) :
    (stateIn enclosing).declare scopes number line =
      declarationIn scopes enclosing number line
        (Declaration.kindAndName line (enclosing.head?.map (lower ·.header.name))) := by
  have hdoc : DocComment.ofLines? [] = none := by decide
  simp only [State.declare, declarationIn, context_stateIn, simpleName_contextIn]
  simp [stateIn, stateAt, hdoc]

/-! ## What some lines yield -/

/-- Reading the lines ends in the state `s'` and yields the declarations `ds`; every line without one
is skipped. -/
structure Yields (scopes : ScopeList) (s : State) (number : Nat) (ls : List Text) (s' : State)
    (ds : List Declaration) : Prop where
  state : State.after scopes s number ls = s'
  declared : (outcomes scopes s number ls).filterMap Outcome.declaration? = ds
  skipped : (outcomes scopes s number ls).count .skipped + ds.length = ls.length

variable {scopes : ScopeList} {s s' s'' : State} {number : Nat} {line : Text}

theorem Yields.nil : Yields scopes s number [] s [] :=
  ⟨rfl, rfl, rfl⟩

theorem Yields.append {xs ys : List Text} {ds es : List Declaration}
    (h : Yields scopes s number xs s' ds) (h' : Yields scopes s' (number + xs.length) ys s'' es) :
    Yields scopes s number (xs ++ ys) s'' (ds ++ es) := by
  obtain ⟨hs, hd, hk⟩ := h
  obtain ⟨hs', hd', hk'⟩ := h'
  refine ⟨?_, ?_, ?_⟩
  · rw [after_append, hs, hs']
  · rw [outcomes_append, List.filterMap_append, hd, hs, hd']
  · rw [outcomes_append, List.count_append, hs, List.length_append, List.length_append]
    omega

theorem Yields.of_skipped (h : Reads scopes number s (trim line) s' .skipped) :
    Yields scopes s number [line] s' [] := by
  have hstep := h.step_eq
  constructor <;> simp [State.after, outcomes, hstep, Outcome.declaration?]

theorem Yields.of_declared {d : Declaration} (h : Reads scopes number s (trim line) s' (.declared d)) :
    Yields scopes s number [line] s' [d] := by
  have hstep := h.step_eq
  constructor <;> simp [State.after, outcomes, hstep, Outcome.declaration?]

/-! ## Lines that are one brace -/

theorem opens_singleton (word : Text) (c : Char) : Keyword.opens word [c] = false := by
  cases word with
  | nil => rfl
  | cons d word =>
    simp only [Keyword.opens, Text.after?]
    cases word with
    | nil => by_cases h : d = c <;> simp [List.isPrefixOf, h]
    | cons e word => simp [List.isPrefixOf]

/-- A line that is one brace is never kept, whatever the scopes and the enclosing type. -/
theorem isKept_brace {b : Char} (hb : b = '{' ∨ b = '}') (scopes : ScopeList) (context : Option Context) :
    Line.isKept [b] scopes context = false := by
  have hnormal : Scope.normalize [b] = [b] := by rcases hb with rfl | rfl <;> decide
  have hprivate : Scope.isImplicitlyPrivate [b] = false := by rcases hb with rfl | rfl <;> decide
  have hbare : Line.opensBareType [b] = false := by rcases hb with rfl | rfl <;> decide
  have hheader : TypeHeader.ofLine? [b] = none := by rcases hb with rfl | rfl <;> decide
  have htrim : trimStart [b] = [b] := by rcases hb with rfl | rfl <;> decide
  have hparen : b ≠ '(' := by rcases hb with rfl | rfl <;> decide
  have hexplicit : ∀ keyword, Scope.isExplicit [b] keyword = false := by
    intro keyword
    simp [Scope.isExplicit, Scope.opensStaticTest, opens_singleton]
  have hscope : Scope.ofLine? [b] scopes = none := by
    have hnone : scopes.keywords.find? (Scope.isExplicit [b]) = none := by
      rw [List.find?_eq_none]
      intro keyword _
      simp [hexplicit]
    simp [Scope.ofLine?, hnormal, hnone, hprivate]
  have hin : ∀ c : Context, Line.isKeptIn c [b] = false := by
    intro c
    have hctor : Line.opensConstructor c.simpleName [b] = false := by
      simp only [Line.opensConstructor, Text.after?]
      cases lower c.simpleName with
      | nil => simp [htrim, List.isPrefixOf, Ne.symm hparen]
      | cons d word =>
        cases word with
        | nil => split <;> simp_all [List.isPrefixOf, trimStart]
        | cons e word => simp [List.isPrefixOf]
    simp [Line.isKeptIn, hctor, Ne.symm hparen]
  cases context <;> simp [Line.isKept, hscope, hnormal, hbare, hheader, hin]

theorem reads_brace {b : Char} (hb : b = '{' ∨ b = '}') (scopes : ScopeList) (number : Nat)
    (hout : s.comment = .outside) (hlevel : s.atMemberLevel = true) :
    Reads scopes number s (trim [b]) (s.past s.openTypes [b]) .skipped := by
  have htrim : trim [b] = [b] := by rcases hb with rfl | rfl <;> decide
  have hcode : Line.IsCode [b] := by rcases hb with rfl | rfl <;> decide
  have hann : ¬ Line.IsAnnotations [b] := by rcases hb with rfl | rfl <;> decide
  rw [htrim]
  exact .skipped hout hcode hlevel hann (isKept_brace hb scopes _)

/-- The closing brace of a type closes that type and no other. -/
theorem yields_closeType (head : TypeHead) (enclosing : List TypeHead) :
    Yields scopes (stateIn (head :: enclosing)) number [['}']] (stateIn enclosing) [] := by
  have hreads := reads_brace (.inr rfl) scopes number (s := stateIn (head :: enclosing)) rfl
    (atMemberLevel_stateIn _)
  have hdepth : State.depthAfter (head :: enclosing).length ['}'] = enclosing.length := rfl
  have hstate : (stateIn (head :: enclosing)).past (stateIn (head :: enclosing)).openTypes ['}'] =
      stateIn enclosing := by
    simp only [stateIn, stateAt, State.past, State.applyBraces, hdepth, stillOpen_openTypesIn_cons]
  rw [hstate] at hreads
  exact .of_skipped hreads

/-! ## Types -/

/-- A type whose header has been read and whose brace has not. -/
def pendingType (head : TypeHead) (enclosing : List TypeHead) : OpenType :=
  ⟨⟨dottedName (head :: enclosing), head.header.keyword = .interfaceWord⟩, enclosing.length + 1, false⟩

/-- The state between the header of a type and the brace on the next line. -/
def stateBeforeBrace (head : TypeHead) (enclosing : List TypeHead) : State :=
  { depth := enclosing.length, openTypes := pendingType head enclosing :: openTypesIn enclosing }

theorem stillOpen_pendingType (head : TypeHead) (enclosing : List TypeHead) :
    State.stillOpen (enclosing.length + 1) (pendingType head enclosing :: openTypesIn enclosing) =
      openTypesIn (head :: enclosing) := by
  simp [State.stillOpen, pendingType, openTypesIn]

theorem isCode_of_ofLine? {header : TypeHeader} (h : TypeHeader.ofLine? line = some header) :
    Line.IsCode line := by
  have hslash := TypeHeader.ne_slash_of_ofLine? h
  refine ⟨?_, ?_, ?_⟩
  · rintro rfl
    have hnone : TypeHeader.ofLine? [] = none := by decide
    rw [hnone] at h
    cases h
  · rintro ⟨rest, rfl⟩
    exact hslash _ rfl
  · rintro ⟨rest, rfl⟩
    exact hslash _ rfl

/-- A header that leaves its body open is declared, and its type is pending. -/
theorem reads_header {head : TypeHead} (enclosing : List TypeHead) (scopes : ScopeList) (number : Nat)
    (h : TypeHeader.ofLine? line = some head.header) (hopen : leavesBodyOpen line = true) :
    Reads scopes number (stateIn enclosing) line
      ((stateIn enclosing).past (pendingType head enclosing :: openTypesIn enclosing) line)
      (.declared (declarationIn scopes enclosing number line
        (.type head.header.keyword, some head.header.name))) := by
  have hkept : Line.isKept line scopes (stateIn enclosing).context = true := by
    simp [Line.isKept, h]
  have hdeclare : (stateIn enclosing).declare scopes number line =
      declarationIn scopes enclosing number line (.type head.header.keyword, some head.header.name) := by
    rw [declare_stateIn]
    simp [Declaration.kindAndName, h]
  have htypes : (stateIn enclosing).openTypesAfter ((stateIn enclosing).declare scopes number line) line =
      pendingType head enclosing :: openTypesIn enclosing := by
    rw [hdeclare]
    simp only [State.openTypesAfter, declarationIn, hopen, if_true, qualifiedName_contextIn]
    rfl
  rw [← htypes, ← hdeclare]
  exact .declared rfl (isCode_of_ofLine? h) (atMemberLevel_stateIn enclosing)
    (TypeHeader.strip_ne_nil_of_ofLine? h) hkept

theorem count_headLine {head : Text} (h : BraceFree head) (place : BracePlace) :
    (trim (place.headLine head)).count '{' = 1 - place.braceLines.length ∧
      (trim (place.headLine head)).count '}' = 0 := by
  rw [count_trim (by decide), count_trim (by decide)]
  cases place <;> simp [BracePlace.headLine, BracePlace.braceLines, h.1, h.2]

theorem leavesBodyOpen_headLine {head : Text} (h : BraceFree head) (place : BracePlace) :
    leavesBodyOpen (trim (place.headLine head)) = true := by
  obtain ⟨hopen, hclose⟩ := count_headLine h place
  cases place with
  | sameLine => simp [leavesBodyOpen, hopen, hclose, BracePlace.braceLines]
  | nextLine =>
    have hno : '{' ∉ trim (BracePlace.nextLine.headLine head) := List.count_eq_zero.1 hopen
    simp [leavesBodyOpen, hno]

theorem ofLine?_headLine (head : TypeHead) (place : BracePlace) :
    TypeHeader.ofLine? (trim (place.headLine head.text)) = some head.header := by
  rw [TypeHeader.ofLine?_trim]
  cases place with
  | sameLine => exact TypeHeader.ofLine?_append_brace head.isHeader
  | nextLine => exact head.isHeader

theorem yields_typeBrace (head : TypeHead) (enclosing : List TypeHead) :
    Yields scopes (stateBeforeBrace head enclosing) number [['{']] (stateIn (head :: enclosing)) [] := by
  have hlevel : (stateBeforeBrace head enclosing).atMemberLevel = true := by
    simp [State.atMemberLevel, stateBeforeBrace, pendingType]
  have hbrace := reads_brace (.inl rfl) scopes number (s := stateBeforeBrace head enclosing) rfl hlevel
  have hdepth : State.depthAfter enclosing.length ['{'] = enclosing.length + 1 := rfl
  have hstate : (stateBeforeBrace head enclosing).past (stateBeforeBrace head enclosing).openTypes ['{'] =
      stateIn (head :: enclosing) := by
    simp only [State.past, stateBeforeBrace, State.applyBraces, hdepth, stillOpen_pendingType]
    rfl
  rw [hstate] at hbrace
  exact .of_skipped hbrace

/-- The lines that open a type declare it and lead into its body. -/
theorem yields_openType (head : TypeHead) (place : BracePlace) (scopes : ScopeList)
    (enclosing : List TypeHead) (number : Nat) :
    Yields scopes (stateIn enclosing) number (place.headLine head.text :: place.braceLines)
      (stateIn (head :: enclosing))
      [declarationIn scopes enclosing number (trim (place.headLine head.text))
        (.type head.header.keyword, some head.header.name)] := by
  have hheader := reads_header enclosing scopes number (ofLine?_headLine head place)
    (leavesBodyOpen_headLine head.braceFree place)
  obtain ⟨hopens, hcloses⟩ := count_headLine head.braceFree place
  cases place with
  | sameLine =>
    have hdepth : State.depthAfter enclosing.length (trim (BracePlace.sameLine.headLine head.text)) =
        enclosing.length + 1 := by
      simp [State.depthAfter, hopens, hcloses, BracePlace.braceLines]
    have hstate : (stateIn enclosing).past (pendingType head enclosing :: openTypesIn enclosing)
        (trim (BracePlace.sameLine.headLine head.text)) = stateIn (head :: enclosing) := by
      simp only [stateIn, stateAt, State.past, State.applyBraces, hdepth, stillOpen_pendingType]
      rfl
    rw [hstate] at hheader
    exact .of_declared hheader
  | nextLine =>
    have hdepth : State.depthAfter enclosing.length (trim (BracePlace.nextLine.headLine head.text)) =
        enclosing.length := by
      simp [State.depthAfter, hopens, hcloses, BracePlace.braceLines]
    have hstate : (stateIn enclosing).past (pendingType head enclosing :: openTypesIn enclosing)
        (trim (BracePlace.nextLine.headLine head.text)) = stateBeforeBrace head enclosing := by
      simp [stateIn, stateAt, State.past, State.applyBraces, hdepth, State.stillOpen, pendingType,
        stateBeforeBrace]
    rw [hstate] at hheader
    exact (Yields.of_declared hheader).append (yields_typeBrace head enclosing)

/-! ## Blocks and one-line items -/

theorem applyBraces_stateAt {enclosing : List TypeHead} {depth : Nat}
    (h : enclosing.length ≤ State.depthAfter depth line) :
    (stateAt depth enclosing).applyBraces line = stateAt (State.depthAfter depth line) enclosing := by
  simp only [State.applyBraces, stateAt, stillOpen_openTypesIn h]

/-- A member that opens no type leaves the open types as they are. -/
theorem yields_member {enclosing : List TypeHead} {depth : Nat} (hmember : IsMember line)
    (hclosed : TypeHeader.ofLine? (trim line) = none ∨ leavesBodyOpen (trim line) = false)
    (hdepth : State.depthAfter enclosing.length (trim line) = depth) (hle : enclosing.length ≤ depth) :
    Yields scopes (stateIn enclosing) number [line] (stateAt depth enclosing)
      (memberIn scopes enclosing number (trim line)) := by
  obtain ⟨hcode, hann⟩ := hmember
  have hlevel := atMemberLevel_stateIn enclosing
  have hstate : (stateIn enclosing).past (stateIn enclosing).openTypes (trim line) =
      stateAt depth enclosing := by
    subst hdepth
    exact applyBraces_stateAt hle
  unfold memberIn
  cases hkept : Line.isKept (trim line) scopes (contextIn enclosing) with
  | true =>
    have hreads : Reads scopes number (stateIn enclosing) (trim line) _ _ :=
      .declared rfl hcode hlevel hann (by rw [context_stateIn]; exact hkept)
    rw [openTypesAfter_eq hclosed, hstate, declare_stateIn] at hreads
    exact .of_declared hreads
  | false =>
    have hreads : Reads scopes number (stateIn enclosing) (trim line) _ _ :=
      .skipped rfl hcode hlevel hann (by rw [context_stateIn]; exact hkept)
    rw [hstate] at hreads
    exact .of_skipped hreads

theorem depthAfter_trim (depth : Nat) (line : Text) :
    State.depthAfter depth (trim line) = State.depthAfter depth line := by
  unfold State.depthAfter
  rw [count_trim (by decide), count_trim (by decide)]

/-- A line below member level is skipped, and its braces are counted. -/
theorem yields_below {enclosing : List TypeHead} {depth depth' : Nat} (hcode : Line.IsCode (trim line))
    (hbelow : enclosing.length < depth) (hdepth : State.depthAfter depth line = depth')
    (hle : enclosing.length ≤ depth') :
    Yields scopes (stateAt depth enclosing) number [line] (stateAt depth' enclosing) [] := by
  have hreads : Reads scopes number (stateAt depth enclosing) (trim line) _ _ :=
    .below rfl hcode (atMemberLevel_stateAt hbelow)
  subst hdepth
  rw [applyBraces_stateAt (by rw [depthAfter_trim]; exact hle), depthAfter_trim] at hreads
  exact .of_skipped hreads

/-- The body of a block stays below member level. The induction is on the body, with the number of
braces that are open inside it. -/
theorem yields_body (enclosing : List TypeHead) {body : List Text}
    (hcode : ∀ line ∈ body, Line.IsCode (trim line)) (inside final : Nat)
    (hopen : ∀ n, 0 ≤ inside + ((body.take n).map braceSum).sum)
    (hfinal : (final : Int) = inside + (body.map braceSum).sum) :
    Yields scopes (stateAt (enclosing.length + 1 + inside) enclosing) number body
      (stateAt (enclosing.length + 1 + final) enclosing) [] := by
  induction body generalizing inside number with
  | nil =>
    have heq : final = inside := by
      simp only [List.map_nil, List.sum_nil] at hfinal
      omega
    rw [heq]
    exact .nil
  | cons line body ih =>
    have hfirst := hopen 1
    simp only [List.take_succ_cons, List.take_zero, List.map_cons, List.map_nil, List.sum_cons,
      List.sum_nil, braceSum] at hfirst
    obtain ⟨inside', hinside⟩ : ∃ n : Nat, (n : Int) = inside + braceSum line :=
      ⟨(inside + braceSum line).toNat, by unfold braceSum; omega⟩
    have hdepth : State.depthAfter (enclosing.length + 1 + inside) line =
        enclosing.length + 1 + inside' := by
      unfold braceSum at hinside
      unfold State.depthAfter
      omega
    have hline : Yields scopes (stateAt (enclosing.length + 1 + inside) enclosing) number [line]
        (stateAt (enclosing.length + 1 + inside') enclosing) [] :=
      yields_below (hcode line List.mem_cons_self) (by omega) hdepth (by omega)
    have hrest : ∀ n, 0 ≤ (inside' : Int) + ((body.take n).map braceSum).sum := by
      intro n
      have hn := hopen (n + 1)
      simp only [List.take_succ_cons, List.map_cons, List.sum_cons] at hn
      omega
    simp only [List.map_cons, List.sum_cons] at hfinal
    exact hline.append (ih (fun l hl => hcode l (List.mem_cons_of_mem _ hl)) inside' hrest (by omega))

/-- The lines that open a block declare it when it is kept, and lead below member level. -/
theorem yields_openBlock (b : Block) (scopes : ScopeList) (enclosing : List TypeHead) (number : Nat) :
    Yields scopes (stateIn enclosing) number (b.place.headLine b.head :: b.place.braceLines)
      (stateAt (enclosing.length + 1) enclosing)
      (memberIn scopes enclosing number (trim (b.place.headLine b.head))) := by
  have hheader : TypeHeader.ofLine? (trim (b.place.headLine b.head)) = none := by
    rw [TypeHeader.ofLine?_trim]
    exact b.notHeader
  obtain ⟨hopens, hcloses⟩ := count_headLine b.braceFree b.place
  have hmember := b.isMember
  cases hplace : b.place with
  | sameLine =>
    rw [hplace] at hheader hopens hcloses hmember
    refine yields_member hmember (.inl hheader) ?_ (Nat.le_succ _)
    simp [State.depthAfter, hopens, hcloses, BracePlace.braceLines]
  | nextLine =>
    rw [hplace] at hheader hopens hcloses hmember
    have hdepth : State.depthAfter enclosing.length (trim (BracePlace.nextLine.headLine b.head)) =
        enclosing.length := by
      simp [State.depthAfter, hopens, hcloses, BracePlace.braceLines]
    have hhead : Yields scopes (stateIn enclosing) number [BracePlace.nextLine.headLine b.head] _ _ :=
      yields_member hmember (.inl hheader) hdepth le_rfl
    have hbrace : Reads scopes (number + 1) (stateIn enclosing) (trim ['{']) _ _ :=
      reads_brace (.inl rfl) scopes (number + 1) rfl (atMemberLevel_stateIn enclosing)
    have hstate : (stateIn enclosing).past (stateIn enclosing).openTypes ['{'] =
        stateAt (enclosing.length + 1) enclosing :=
      applyBraces_stateAt (Nat.le_succ _)
    rw [hstate] at hbrace
    have hlines := hhead.append (.of_skipped hbrace)
    rw [List.append_nil] at hlines
    exact hlines

theorem yields_block (b : Block) (scopes : ScopeList) (enclosing : List TypeHead) (number : Nat) :
    Yields scopes (stateIn enclosing) number
      ((b.place.headLine b.head :: b.place.braceLines) ++ b.body ++ [['}']]) (stateIn enclosing)
      (memberIn scopes enclosing number (trim (b.place.headLine b.head))) := by
  have hbody : ∀ number, Yields scopes (stateAt (enclosing.length + 1) enclosing) number b.body
      (stateAt (enclosing.length + 1) enclosing) [] := fun number =>
    yields_body enclosing b.bodyCode 0 0 (by simpa using b.bodyOpen)
      (by simpa using b.bodyClosed.symm)
  have hclose : ∀ number, Yields scopes (stateAt (enclosing.length + 1) enclosing) number [['}']]
      (stateIn enclosing) [] := fun number =>
    yields_below (by decide) (Nat.lt_succ_self _) rfl le_rfl
  have hlines := ((yields_openBlock b scopes enclosing number).append (hbody _)).append (hclose _)
  simpa only [List.append_nil] using hlines

theorem yields_oneLine (item : OneLine) (enclosing : List TypeHead) :
    Yields scopes (stateIn enclosing) number [item.text] (stateIn enclosing)
      (memberIn scopes enclosing number (trim item.text)) := by
  have hopens : (trim item.text).count '{' = item.text.count '{' := count_trim (by decide) _
  have hcloses : (trim item.text).count '}' = item.text.count '}' := count_trim (by decide) _
  have hbalanced := item.balanced
  refine yields_member item.isMember ?_ ?_ le_rfl
  · rw [TypeHeader.ofLine?_trim]
    cases hheader : TypeHeader.ofLine? item.text with
    | none => exact .inl rfl
    | some header =>
      have hmem : '{' ∈ item.text := item.bodyThere (by rw [hheader]; rfl)
      have hpos : 0 < (trim item.text).count '{' := by
        rw [hopens]
        exact List.count_pos_iff.2 hmem
      right
      simp only [leavesBodyOpen, hopens, hcloses, hbalanced, lt_irrefl, decide_false, Bool.false_or,
        Bool.not_eq_false', List.contains_iff_mem]
      exact List.count_pos_iff.1 hpos
  · unfold State.depthAfter
    omega

/-! ## Forests -/

/-- A forest leaves the state as it finds it and yields the declarations of its items. -/
theorem yields_forest (forest : Forest) (scopes : ScopeList) (enclosing : List TypeHead) (number : Nat) :
    Yields scopes (stateIn enclosing) number forest.lines (stateIn enclosing)
      (forest.declarations scopes enclosing number) := by
  induction forest generalizing enclosing number with
  | nil => exact .nil
  | type head place children rest ihc ihr =>
    have hopen := yields_openType head place scopes enclosing number
    have hlines := ((hopen.append (ihc (head :: enclosing) _)).append
      (yields_closeType head enclosing)).append (ihr enclosing _)
    have hbody : number + (place.headLine head.text :: place.braceLines).length =
        number + 1 + place.braceLines.length := by
      rw [List.length_cons]
      omega
    have hrest : number +
        ((place.headLine head.text :: place.braceLines) ++ children.lines ++ [['}']]).length =
          number + 1 + place.braceLines.length + children.lines.length + 1 := by
      simp only [List.length_append, List.length_cons, List.length_nil]
      omega
    rw [hbody, hrest, List.append_nil] at hlines
    exact hlines
  | block b rest ih =>
    have hlines := (yields_block b scopes enclosing number).append (ih enclosing _)
    have hrest : number +
        ((b.place.headLine b.head :: b.place.braceLines) ++ b.body ++ [['}']]).length =
          number + 1 + b.place.braceLines.length + b.body.length + 1 := by
      simp only [List.length_append, List.length_cons, List.length_nil]
      omega
    rw [hrest] at hlines
    exact hlines
  | oneLine item rest ih =>
    exact (yields_oneLine item enclosing).append (ih enclosing _)

/-- A source laid out as a forest has exactly the declarations of its items, in order and each under
the types around it; every other line is skipped, and no type or brace is left open. -/
theorem outline_of_forest (forest : Forest) (scopes : ScopeList) (source : Text)
    (h : forest.Renders source) :
    (ofSource scopes source).declarations = forest.declarations scopes [] 1 ∧
      (ofSource scopes source).skippedLines + (forest.declarations scopes [] 1).length =
        forest.lines.length ∧
      State.after scopes {} 1 (lines source) = {} := by
  obtain ⟨hstate, houtcomes⟩ := run_congr h scopes {} 1
  obtain ⟨hafter, hdeclared, hskipped⟩ := yields_forest forest scopes [] 1
  refine ⟨?_, ?_, ?_⟩
  · rw [ofSource, houtcomes]
    exact hdeclared
  · rw [ofSource, houtcomes]
    exact hskipped
  · rw [hstate]
    exact hafter

/-- A class with a field, an interface whose brace stands on its own line, and a method with a
body. -/
def shapes : Forest :=
  .type ⟨"public class Shapes".toList, ⟨.classWord, "Shapes".toList⟩, by decide, by decide⟩ .sameLine
    (.oneLine ⟨"public Integer count;".toList, by decide, by decide, by decide⟩
      (.type ⟨"interface Shape".toList, ⟨.interfaceWord, "Shape".toList⟩, by decide, by decide⟩ .nextLine
        (.oneLine ⟨"Decimal area(Integer unit);".toList, by decide, by decide, by decide⟩ .nil)
        (.block
          { head := "public void clear()".toList
            place := .sameLine
            body := ["while (more()) \x7b".toList, "\x7d".toList]
            isMember := by decide
            notHeader := by decide
            braceFree := by decide
            bodyCode := by decide
            bodyOpen := fun n => by
              match n with
              | 0 => decide
              | 1 => decide
              | n + 2 => rw [List.take_of_length_le (Nat.le_add_left 2 n)]; decide
            bodyClosed := by decide }
          .nil)))
    .nil

def shapesSource : Text :=
  join ['\n']
    ["public class Shapes \x7b".toList, "  public Integer count;".toList, "  interface Shape".toList,
      "  \x7b".toList, "    Decimal area(Integer unit);".toList, "  \x7d".toList,
      "  public void clear() \x7b".toList, "    while (more()) \x7b".toList, "    \x7d".toList,
      "  \x7d".toList, "\x7d".toList]

theorem outline_of_shapes :
    shapes.Renders shapesSource ∧
      (ofSource ⟨["public".toList]⟩ shapesSource).declarations.map (fun d => (d.name, d.parent)) =
        [(some "Shapes".toList, none), (some "count".toList, some "Shapes".toList),
          (some "Shape".toList, some "Shapes".toList), (some "area".toList, some "Shapes.Shape".toList),
          (some "clear".toList, some "Shapes".toList)] := by
  have hrenders : shapes.Renders shapesSource := by
    unfold Forest.Renders
    decide +kernel
  refine ⟨hrenders, ?_⟩
  rw [(outline_of_forest shapes ⟨["public".toList]⟩ shapesSource hrenders).1]
  decide +kernel

end ApexOutline.Outline
