import ApexOutline.Proofs.ImplicitPrivate
import ApexOutline.Proofs.Scope
import ApexOutline.Proofs.Text.AsciiCase
/-!
# Precedence of scopes

`Names` says when a listed keyword names the scope of a line, and `PrivateShape` which lines are private by
their shape. The scope of a line is the first listed keyword that names it; where none does, it is the first
listed `private` if the line has the shape (`ofLine?_eq_some_iff`). So the order of the list decides which
scope a line has, but only its members decide whether it has one, and more lines are kept when more keywords
are listed, in a type, and in an interface (`scope_precedence`).
-/

namespace ApexOutline

open Text

namespace Scope

/-! ## When a keyword names the scope of a line -/

/-- The keyword names the scope of the line, its annotations and outer blanks dropped and in lowercase. -/
inductive Names (line keyword : Text) : Prop
  -- The line is the keyword in lowercase, a blank and more.
  | opens {b : Char} {rest : Text} : lower keyword ≠ [] → isBlank b → rest ≠ [] →
      normalize line = lower keyword ++ b :: rest → Names line keyword
  -- The keyword is `testmethod`, and the line starts with the words `static testmethod` and a blank.
  | staticTest {gap rest : Text} {b : Char} : lower keyword = testWord → IsGap gap → isBlank b →
      normalize line = "static".toList ++ gap ++ testWord ++ b :: rest → Names line keyword

/-- The normalized line is a member without an access modifier. -/
inductive PrivateShape (t : Text) : Prop
  | static {b : Char} {rest : Text} : isBlank b → t = "static".toList ++ b :: rest →
      hasWord testWord t = false → PrivateShape t
  | member {word rest : Text} {b : Char} :
      word ∈ Keyword.Category.modifier.words ++ Keyword.Category.primitive.words → isBlank b →
      t = word ++ b :: rest → '(' ∈ t → PrivateShape t
  | collection {word gap parameters rest : Text} : word ∈ Keyword.Category.collection.words →
      (∀ c ∈ gap, isBlank c) → parameters ≠ [] → '\n' ∉ parameters →
      t = word ++ gap ++ '<' :: (parameters ++ '>' :: rest) → '(' ∈ t → PrivateShape t

/-- The entry is the first one in the list that has the property. -/
def IsFirst (p : Text → Prop) (entries : List Text) (entry : Text) : Prop :=
  ∃ before after, entries = before ++ entry :: after ∧ p entry ∧ ∀ earlier ∈ before, ¬ p earlier

/-- The keyword is a spelling of `private`. -/
def IsPrivate (keyword : Text) : Prop :=
  eqIgnoringAsciiCase keyword privateWord = true

instance (keyword : Text) : Decidable (IsPrivate keyword) :=
  inferInstanceAs (Decidable (_ = true))

variable {line keyword scope : Text} {scopes : ScopeList}

theorem opens_iff_exists {word t : Text} :
    Keyword.opens word t = true ↔ word ≠ [] ∧ ∃ b rest, isBlank b = true ∧ t = word ++ b :: rest := by
  rw [Keyword.opens_iff]
  refine and_congr_right fun _ => exists_congr fun b => ?_
  constructor
  · rintro ⟨hb, rest, rfl⟩
    exact ⟨rest, hb, by simp⟩
  · rintro ⟨rest, hb, rfl⟩
    exact ⟨hb, rest, by simp⟩

/-- A normalized line does not end in a blank. -/
theorem rest_ne_nil {s rest : Text} {b : Char} (hb : isBlank b = true) (h : normalize line = s ++ b :: rest) :
    rest ≠ [] := by
  rintro rfl
  have hend : trimEnd (normalize line) = normalize line := trimEnd_lower (trimEnd_trim _)
  have hblank : ∀ c ∈ [b], isBlank c := by simpa using hb
  rw [h, trimEnd_append_blanks s hblank] at hend
  obtain ⟨after, hafter, -⟩ := exists_trimEnd s
  have hlength := congrArg List.length hafter
  rw [hend] at hlength
  simp at hlength

/-- A normalized line does not start with a blank. -/
theorem head_normalize (line : Text) : ∀ c ∈ (normalize line).head?, isBlank c = false := by
  have hstart : trimStart (trim (Annotations.strip line)) = trim (Annotations.strip line) :=
    trimStart_eq_iff.2 ⟨[], rfl, by simp, head_trim _⟩
  obtain ⟨gap, -, -, hhead⟩ := trimStart_eq_iff.1 (trimStart_lower (trim (Annotations.strip line)))
  rwa [hstart] at hhead

theorem isExplicit_iff : isExplicit (normalize line) keyword = true ↔ Names line keyword := by
  unfold isExplicit
  rw [Bool.or_eq_true, Bool.and_eq_true, opens_iff_exists, opensStaticTest_iff, beq_iff_eq]
  constructor
  · rintro (⟨hne, b, rest, hb, hline⟩ | ⟨htest, gap, b, hne, hgap, hb, rest, hline⟩)
    · exact .opens hne hb (rest_ne_nil hb hline) hline
    · refine @Names.staticTest _ _ gap rest b htest ⟨hne, hgap⟩ hb ?_
      rw [← hline]
      simp
  · intro h
    cases h with
    | opens hne hb _ hline => exact .inl ⟨hne, _, _, hb, hline⟩
    | @staticTest gap rest b htest hgap hb hline =>
      refine .inr ⟨htest, gap, b, hgap.1, hgap.2, hb, rest, ?_⟩
      rw [hline, List.append_assoc _ [b], List.singleton_append]

theorem isImplicitlyPrivate_iff {t : Text} : isImplicitlyPrivate t = true ↔ PrivateShape t := by
  unfold isImplicitlyPrivate Keyword.opensMember
  simp only [Bool.or_eq_true, Bool.and_eq_true, Bool.not_eq_true', List.contains_iff_mem, List.any_eq_true,
    opens_iff_exists, Keyword.opensCollection_iff]
  constructor
  · rintro (⟨⟨-, b, rest, hb, ht⟩, htest⟩ | ⟨⟨word, hword, -, b, rest, hb, ht⟩ | h, hparen⟩)
    · exact .static hb ht htest
    · exact .member hword hb ht hparen
    · obtain ⟨word, hword, gap, parameters, rest, hgap, ht, hne, hnewline⟩ := h
      exact .collection hword hgap hne hnewline ht hparen
  · rintro (⟨hb, ht, htest⟩ | ⟨hword, hb, ht, hparen⟩ | ⟨hword, hgap, hne, hnewline, ht, hparen⟩)
    · exact .inl ⟨⟨by decide, _, _, hb, ht⟩, htest⟩
    · refine .inr ⟨.inl ⟨_, hword, ?_, _, _, hb, ht⟩, hparen⟩
      rintro rfl
      exact absurd hword (by decide)
    · exact .inr ⟨.inr ⟨_, hword, _, _, _, hgap, ht, hne, hnewline⟩, hparen⟩

/-! ## Which keyword it is -/

theorem find?_eq_some_iff_isFirst {q : Text → Bool} {p : Text → Prop} (h : ∀ entry, q entry = true ↔ p entry)
    {entries : List Text} {entry : Text} : entries.find? q = some entry ↔ IsFirst p entries entry := by
  rw [List.find?_eq_some_iff_append]
  constructor
  · rintro ⟨hentry, before, after, hentries, hbefore⟩
    refine ⟨before, after, hentries, (h entry).1 hentry, ?_⟩
    intro earlier hearlier hp
    have hnot := hbefore earlier hearlier
    rw [(h earlier).2 hp] at hnot
    cases hnot
  · rintro ⟨before, after, hentries, hentry, hbefore⟩
    refine ⟨(h entry).2 hentry, before, after, hentries, ?_⟩
    intro earlier hearlier
    have hnot : ¬ q earlier = true := fun hq => hbefore earlier hearlier ((h earlier).1 hq)
    simpa using hnot

/-- The scope of a line is the first listed keyword that names it, and where there is none, the first listed
`private` if the line has the shape for it. -/
theorem ofLine?_eq_some_iff :
    ofLine? line scopes = some scope ↔
      IsFirst (Names line) scopes.keywords scope ∨
        (∀ keyword ∈ scopes.keywords, ¬ Names line keyword) ∧ PrivateShape (normalize line) ∧
          IsFirst IsPrivate scopes.keywords scope := by
  have hfirst {entry : Text} : scopes.keywords.find? (isExplicit (normalize line)) = some entry ↔
      IsFirst (Names line) scopes.keywords entry := find?_eq_some_iff_isFirst fun _ => isExplicit_iff
  rw [← hfirst]
  cases hfind : scopes.keywords.find? (isExplicit (normalize line)) with
  | some entry =>
    have hscope : ofLine? line scopes = some entry := by simp only [ofLine?, hfind]
    have hnamed : ¬ ∀ keyword ∈ scopes.keywords, ¬ Names line keyword := by
      intro hnone
      exact hnone entry (List.mem_of_find?_eq_some hfind) (isExplicit_iff.1 (List.find?_some hfind))
    rw [hscope]
    simp [hnamed]
  | none =>
    have hnone : ∀ keyword ∈ scopes.keywords, ¬ isExplicit (normalize line) keyword = true :=
      List.find?_eq_none.1 hfind
    have hunnamed : ∀ keyword ∈ scopes.keywords, ¬ Names line keyword := by
      intro keyword hkeyword hnames
      exact hnone keyword hkeyword (isExplicit_iff.2 hnames)
    have hprivate : scopes.find? privateWord = some scope ↔ IsFirst IsPrivate scopes.keywords scope :=
      find?_eq_some_iff_isFirst fun _ => Iff.rfl
    rw [ofLine?_of_not_explicit fun keyword hkeyword => by simpa using hnone keyword hkeyword,
      ← isImplicitlyPrivate_iff, ← hprivate]
    simp only [Option.ite_none_right_eq_some, reduceCtorEq, false_or]
    exact (and_iff_right hunnamed).symm

theorem of_isFirst {p : Text → Prop} {entries : List Text} {entry : Text} (h : IsFirst p entries entry) :
    entry ∈ entries ∧ p entry := by
  obtain ⟨before, after, rfl, hentry, -⟩ := h
  exact ⟨by simp, hentry⟩

/-- A keyword that names a scope is not blank. -/
theorem trim_ne_nil_of_names (h : Names line keyword) : trim keyword ≠ [] := by
  intro htrim
  have hlower : trimStart (lower keyword) = [] := by
    rw [trimStart_lower, trim_eq_nil_iff.1 htrim]
    rfl
  rcases h with ⟨hne, -, -, hline⟩ | ⟨htest, -⟩
  · obtain ⟨c, word, hword⟩ := List.exists_cons_of_ne_nil hne
    have hblank : isBlank c = true := by
      apply trimStart_eq_nil_iff.1 hlower
      rw [hword]
      exact List.mem_cons_self
    have hhead := head_normalize line c (by rw [hline, hword]; rfl)
    rw [hblank] at hhead
    cases hhead
  · rw [htest] at hlower
    exact absurd hlower (by decide)

theorem trim_ne_nil_of_isPrivate (h : IsPrivate keyword) : trim keyword ≠ [] := by
  intro htrim
  have hlower : trimStart (lowerAscii keyword) = [] := by
    rw [trimStart_lowerAscii, trim_eq_nil_iff.1 htrim]
    rfl
  rw [beq_iff_eq.1 h] at hlower
  exact absurd hlower (by decide)

end Scope

namespace Line

variable {line : Text} {scopes : ScopeList}

/-- A type around a line keeps it no less than no type does. -/
theorem isKept_of_none (h : isKept line scopes none = true) (context : Option Context) :
    isKept line scopes context = true := by
  simp only [isKept, Option.any_none, Bool.or_false, Bool.or_eq_true] at h ⊢
  exact .inl h

/-- An interface around a line keeps it no less than a class does. -/
theorem isKept_of_class {name : Text} (h : isKept line scopes (some ⟨name, false⟩) = true) :
    isKept line scopes (some ⟨name, true⟩) = true := by
  simp only [isKept, isKeptIn, Option.any_some, Context.simpleName, Bool.false_and, Bool.or_false,
    Bool.or_eq_true] at h ⊢
  rcases h with h | h
  · exact .inl h
  · exact .inr (.inl h)

end Line

namespace Scope

/-- Scopes follow the precedence of the list and are monotone in its members. The scope of a line is the first
listed keyword that names it, as it is listed, also where the line is private by its shape; where none names
it, it is the first listed `private` if the line has the shape; otherwise there is none. So it is a listed
keyword and not blank; whether there is one depends on the members of the list only, and listing more keywords
takes none away. No line that is kept is given up when more keywords are listed, when a type stands around it,
or when that type becomes an interface. -/
theorem scope_precedence (line : Text) (scopes : ScopeList) :
    (∀ scope, ofLine? line scopes = some scope ↔
      IsFirst (Names line) scopes.keywords scope ∨
        (∀ keyword ∈ scopes.keywords, ¬ Names line keyword) ∧ PrivateShape (normalize line) ∧
          IsFirst IsPrivate scopes.keywords scope) ∧
    (∀ scope, ofLine? line scopes = some scope → scope ∈ scopes.keywords ∧ trim scope ≠ []) ∧
    (∀ scopes' : ScopeList, (∀ keyword, keyword ∈ scopes'.keywords ↔ keyword ∈ scopes.keywords) →
      (ofLine? line scopes').isSome = (ofLine? line scopes).isSome) ∧
    (∀ scopes' : ScopeList, scopes.keywords ⊆ scopes'.keywords →
      ((ofLine? line scopes).isSome → (ofLine? line scopes').isSome) ∧
      ∀ context, Line.isKept line scopes context = true → Line.isKept line scopes' context = true) ∧
    (∀ context, Line.isKept line scopes none = true → Line.isKept line scopes context = true) ∧
    ∀ name, Line.isKept line scopes (some ⟨name, false⟩) = true →
      Line.isKept line scopes (some ⟨name, true⟩) = true := by
  refine ⟨?_, ?_, ?_, ?_, ?_, ?_⟩
  · intro scope
    exact ofLine?_eq_some_iff
  · intro scope h
    rcases ofLine?_eq_some_iff.1 h with hfirst | ⟨-, -, hfirst⟩
    · obtain ⟨hmem, hnames⟩ := of_isFirst hfirst
      exact ⟨hmem, trim_ne_nil_of_names hnames⟩
    · obtain ⟨hmem, hprivate⟩ := of_isFirst hfirst
      exact ⟨hmem, trim_ne_nil_of_isPrivate hprivate⟩
  · intro scopes' hsame
    rw [Bool.eq_iff_iff]
    constructor
    · exact isSome_ofLine?_mono fun keyword => (hsame keyword).1
    · exact isSome_ofLine?_mono fun keyword => (hsame keyword).2
  · intro scopes' hsub
    exact ⟨isSome_ofLine?_mono hsub, fun context h => Line.isKept_mono hsub h⟩
  · intro context h
    exact Line.isKept_of_none h context
  · intro name h
    exact Line.isKept_of_class h

/-- A static method is private by its shape, but a listed `static` names it, even behind `Private`; without it,
the first spelling of `private` does. -/
theorem scope_precedence_static :
    let line := "@Deprecated static void run() \x7b".toList
    let scopes : ScopeList := ⟨["public".toList, "Private".toList, "STATIC".toList, "private".toList]⟩
    isImplicitlyPrivate (normalize line) = true ∧ ofLine? line scopes = some "STATIC".toList ∧
      ofLine? line ⟨["public".toList, "Private".toList, "private".toList]⟩ = some "Private".toList ∧
      (ofLine? line ⟨scopes.keywords.reverse⟩).isSome = true ∧
      Line.isKept line scopes (some ⟨"Shape".toList, true⟩) = true := by
  intro line scopes
  have hnormal : normalize line = "static void run() \x7b".toList := by decide +kernel
  have hnamed : Names line "STATIC".toList :=
    @Names.opens _ _ ' ' "void run() \x7b".toList (by decide +kernel) (by decide) (by decide) (by decide +kernel)
  have hunnamed : ∀ keyword ∈ ["public".toList, "Private".toList, "private".toList], ¬ Names line keyword := by
    intro keyword hkeyword hnames
    rw [← isExplicit_iff, hnormal] at hnames
    revert hnames
    simp only [List.mem_cons, List.not_mem_nil, or_false] at hkeyword
    rcases hkeyword with rfl | rfl | rfl <;> decide +kernel
  have hshape : PrivateShape (normalize line) := by
    rw [hnormal]
    exact @PrivateShape.static _ ' ' "void run() \x7b".toList (by decide) (by decide) (by decide)
  have hscope : ofLine? line scopes = some "STATIC".toList := by
    apply ((scope_precedence line scopes).1 _).2
    refine .inl ⟨["public".toList, "Private".toList], ["private".toList], rfl, hnamed, ?_⟩
    intro keyword hkeyword
    exact hunnamed keyword (List.mem_append_left ["private".toList] hkeyword)
  refine ⟨isImplicitlyPrivate_iff.2 hshape, hscope, ?_, ?_, ?_⟩
  · apply ((scope_precedence line _).1 _).2
    refine .inr ⟨hunnamed, hshape, ["public".toList], ["private".toList], rfl, by decide, ?_⟩
    intro keyword hkeyword
    rw [List.mem_singleton.1 hkeyword]
    decide
  · have hsame := (scope_precedence line scopes).2.2.1 ⟨scopes.keywords.reverse⟩ fun _ => List.mem_reverse
    rw [hsame, hscope]
    rfl
  · refine (scope_precedence line scopes).2.2.2.2.1 _ ?_
    simp [Line.isKept, hscope]

end Scope

end ApexOutline
