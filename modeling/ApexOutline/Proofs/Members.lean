import ApexOutline.Proofs.Declaration
import ApexOutline.Proofs.Opening
/-!
# Members

What is said here is about lines that are no type headers. Fields and properties have their name before
`=`, `;` or `{`, methods and constructors before a parenthesis, so the first of these symbols tells them
apart (`memberBySymbol`). A line is read by its parenthesis alone: it is read by its first symbol exactly
when nothing that ends the name of a field stands before the first parenthesis (`parenthesis_wins`).

A line is kept as a constructor when it starts with the name of the enclosing type, blanks and a
parenthesis. It is also declared as one exactly when these blanks are spaces (`constructor_spaces`): any
other blank is read as a part of the name.
-/

namespace ApexOutline

open Text

namespace Text

/-! ## Last words -/

theorem lastWord_eq_self {t : Text} (h : ' ' ∉ t) : lastWord t = t := by
  by_cases hne : t = []
  · rw [hne]
    rfl
  · have hstart : ∀ c ∈ ([] : Text).getLast?, c = ' ' := by simp
    exact lastWord_append_run hstart hne h

/-- The last word of a text holds the last of its characters that is no space. -/
theorem exists_mem_lastWord (t : Text) {gap : Text} (h : ∃ c ∈ gap, c ≠ ' ') :
    ∃ c ∈ gap, c ∈ lastWord (t ++ gap) := by
  obtain ⟨c, hc, hspace⟩ := h
  have hne : gap.reverse.dropWhile (· == ' ') ≠ [] := by
    intro hnil
    have hall := List.dropWhile_eq_nil_iff.1 hnil c (List.mem_reverse.2 hc)
    exact hspace (by simpa using hall)
  obtain ⟨d, r, hd⟩ := List.exists_cons_of_ne_nil hne
  have hd' : (d == ' ') = false := by
    have hstop := List.head?_dropWhile_not (· == ' ') gap.reverse
    rw [hd] at hstop
    simpa using hstop
  refine ⟨d, ?_, ?_⟩
  · refine List.mem_reverse.1 ((List.dropWhile_sublist (· == ' ')).subset ?_)
    rw [hd]
    exact List.mem_cons_self
  · unfold lastWord
    rw [List.reverse_append, List.dropWhile_append, hd]
    simp [bne, hd']

/-! ## Blanks after a lowercase text -/

/-- Blanks that end a lowercase text end the text. -/
theorem lower_eq_append_blanks {t k gap : Text} (hgap : ∀ c ∈ gap, isBlank c) (h : lower t = k ++ gap) :
    ∃ s, t = s ++ gap ∧ lower s = k := by
  cases gap with
  | nil => exact ⟨t, (List.append_nil t).symm, by rw [h, List.append_nil]⟩
  | cons b gap =>
    obtain ⟨hb, hgap⟩ := List.forall_mem_cons.1 hgap
    obtain ⟨s, q, rfl, hs, hq⟩ := lower_eq_append_cons (isBarrier_of_isBlank hb) h
    have hblank : ∀ c ∈ q, isBlank c := by
      have htrim : trimStart (lower q) = [] := trimStart_eq_nil_iff.2 fun c hc => hgap c (hq ▸ hc)
      rw [trimStart_lower, lower_eq_nil_iff] at htrim
      exact trimStart_eq_nil_iff.1 htrim
    have hself : lower q = q := lower_append_blanks [] hblank
    exact ⟨s, by rw [← hq, hself], hs⟩

end Text

namespace Declaration

/-! ## Fields and methods -/

/-- The last word of a text, if there is one. -/
def wordOf? (part : Text) : Option Text :=
  nonEmpty? (lastWord part)

/-- A character that ends the name of a field stands before the first parenthesis, if there is one. -/
def EndsEarly (s : Text) : Prop :=
  ∃ c ∈ s.takeWhile (· != '('), endsName c = true

instance (s : Text) : Decidable (EndsEarly s) :=
  decidable_of_iff ((s.takeWhile (· != '(')).any endsName = true) List.any_eq_true

/-- The kind of a line with a parenthesis that has the given name before it. -/
def callableKind (name enclosing : Option Text) : Kind :=
  if name.isSome && name.map lower == enclosing then .constructor else .method

/-- What a member is when the first symbol on its line decides. A parenthesis before any `=`, `;` or `{`
makes it a method or a constructor, and otherwise it is a property; its name is the word before the
symbol. -/
def memberBySymbol (s : Text) (enclosing : Option Text) : Kind × Option Text :=
  if '(' ∈ s ∧ ¬ EndsEarly s then
    let name := wordOf? (s.takeWhile (· != '('))
    (callableKind name enclosing, name)
  else (.property, wordOf? (s.takeWhile (!endsName ·)))

theorem callableKind_eq (name enclosing : Option Text) :
    callableKind name enclosing = .method ∨ callableKind name enclosing = .constructor := by
  unfold callableKind
  split
  · exact .inr rfl
  · exact .inl rfl

theorem callableKind_ne_property (name enclosing : Option Text) :
    callableKind name enclosing ≠ .property := by
  rcases callableKind_eq name enclosing with h | h
  · rw [h]
    exact Kind.noConfusion
  · rw [h]
    exact Kind.noConfusion

theorem memberOf_of_paren {s : Text} (h : '(' ∈ s) (enclosing : Option Text) :
    memberOf s enclosing =
      (callableKind (wordOf? (s.takeWhile (· != '('))) enclosing, wordOf? (s.takeWhile (· != '('))) := by
  rw [memberOf_eq]
  simp only [namePart, h, if_true]
  rfl

theorem memberOf_of_no_paren {s : Text} (h : '(' ∉ s) (enclosing : Option Text) :
    memberOf s enclosing = (.property, wordOf? (s.takeWhile (!endsName ·))) := by
  rw [memberOf_eq]
  simp only [namePart, h, if_false]
  rfl

/-- A parenthesis wins over what stands before it. A line is read by its first symbol exactly when it
has no `=`, `;` or `{` before a parenthesis; otherwise, a field whose initial value or body holds a
parenthesis is a method or a constructor with the word before the parenthesis as its name. -/
theorem parenthesis_wins {line : Text} (hheader : TypeHeader.ofLine? line = none) (enclosing : Option Text) :
    let s := trim (Annotations.strip line)
    let found := kindAndName line enclosing
    (found = memberBySymbol s enclosing ↔ ¬ ('(' ∈ s ∧ EndsEarly s)) ∧
      ('(' ∈ s → EndsEarly s →
        (found.1 = .method ∨ found.1 = .constructor) ∧ found.2 = wordOf? (s.takeWhile (· != '('))) := by
  intro s found
  have hfound : found = memberOf s enclosing := by
    change kindAndName line enclosing = _
    unfold kindAndName
    rw [hheader]
  rw [hfound]
  unfold memberBySymbol
  by_cases hparen : '(' ∈ s
  · rw [memberOf_of_paren hparen]
    refine ⟨?_, fun _ _ => ⟨callableKind_eq _ _, rfl⟩⟩
    by_cases hearly : EndsEarly s
    · rw [if_neg fun h => h.2 hearly]
      refine iff_of_false (fun h => ?_) (not_not.2 ⟨hparen, hearly⟩)
      exact callableKind_ne_property _ _ (congrArg Prod.fst h)
    · rw [if_pos ⟨hparen, hearly⟩]
      exact iff_of_true rfl fun h => hearly h.2
  · rw [memberOf_of_no_paren hparen, if_neg fun h => hparen h.1]
    exact ⟨iff_of_true rfl fun h => hparen h.1, fun h => absurd h hparen⟩

/-- A field that is initialized with a new object. -/
theorem parenthesis_wins_initializer :
    let line := "public Account a = new Account();".toList
    memberBySymbol line none = (.property, some "a".toList) ∧
      kindAndName line none ≠ memberBySymbol line none ∧
      kindAndName line none = (.method, some "Account".toList) := by
  intro line
  have hstrip : trim (Annotations.strip line) = line := by decide +kernel
  have hwins := parenthesis_wins (show TypeHeader.ofLine? line = none by decide +kernel) none
  simp only [hstrip] at hwins
  refine ⟨by decide +kernel, fun h => ?_, by decide +kernel⟩
  exact hwins.1.1 h (by decide +kernel)

/-! ## Constructors -/

/-- Where the name of the enclosing type opens a lowercase line before blanks and a parenthesis, the line
itself opens with such a name, the same blanks and its first parenthesis. -/
theorem exists_of_opensConstructor {typeName s : Text} (hword : ∀ c ∈ typeName, isWord c)
    (h : Line.opensConstructor typeName (lower s) = true) :
    ∃ name gap rest, s = name ++ gap ++ '(' :: rest ∧ lower name = lower typeName ∧ name ≠ [] ∧
      (∀ c ∈ gap, isBlank c) ∧ '(' ∉ name ++ gap := by
  have hparen : IsBarrier '(' := by decide +kernel
  rw [Line.opensConstructor_eq, Bool.and_eq_true, opensBefore_iff (by decide)] at h
  obtain ⟨hne, gap, hgap, hprefix⟩ := h
  obtain ⟨p, rest, rfl, hp⟩ := (prefix_lower_iff hparen).1 hprefix
  obtain ⟨name, rfl, hname⟩ := lower_eq_append_blanks hgap hp
  refine ⟨name, gap, rest, rfl, hname, ?_, hgap, ?_⟩
  · rintro rfl
    rw [eq_comm, show lower [] = [] from rfl, lower_eq_nil_iff] at hname
    simp [hname] at hne
  · intro hmem
    rcases List.mem_append.1 hmem with hmem | hmem
    · rw [← mem_lower_iff hparen.1, hname, mem_lower_iff hparen.1] at hmem
      exact absurd (hword '(' hmem) (by decide)
    · exact absurd (hgap '(' hmem) (by decide)

/-- A line that is kept as a constructor of a type is declared as one exactly when only spaces stand
between the name and the parenthesis. With any other blank there it is declared as a method, and its
name holds a blank. -/
theorem constructor_spaces {line headerLine : Text} {header : TypeHeader}
    (hline : TypeHeader.ofLine? line = none) (hheader : TypeHeader.ofLine? headerLine = some header)
    (hkept : Line.opensConstructor header.name (Scope.normalize line) = true) :
    let found := kindAndName line (some (lower header.name))
    ∃ name gap rest, trim (Annotations.strip line) = name ++ gap ++ '(' :: rest ∧
      lower name = lower header.name ∧ (∀ c ∈ gap, isBlank c) ∧
      ((∀ c ∈ gap, c = ' ') → found = (.constructor, some name)) ∧
      ((∃ c ∈ gap, c ≠ ' ') →
        found.1 = .method ∧ ∃ word, found.2 = some word ∧ ∃ c ∈ word, isBlank c) := by
  intro found
  obtain ⟨-, hword⟩ := TypeHeader.name_of_ofLine? hheader
  obtain ⟨name, gap, rest, hs, hname, hne, hgap, hparen⟩ := exists_of_opensConstructor hword hkept
  have hfront : (name ++ gap ++ '(' :: rest).takeWhile (· != '(') = name ++ gap := by
    rw [List.takeWhile_append_of_pos fun c hc => by simpa using fun h : c = '(' => hparen (h ▸ hc)]
    simp
  have hfound : found = (callableKind (wordOf? (name ++ gap)) (some (lower header.name)),
      wordOf? (name ++ gap)) := by
    change kindAndName line _ = _
    unfold kindAndName
    rw [hline]
    dsimp only
    rw [hs, memberOf_of_paren (by simp), hfront]
  refine ⟨name, gap, rest, hs, hname, hgap, fun hspaces => ?_, fun hblank => ?_⟩
  · have hspace : ' ' ∉ name := by
      rw [← mem_lower_iff (isBarrier_of_isBlank (by decide)).1, hname]
      exact not_mem_lower_of_isBlank hword (by decide)
    have hlast : wordOf? (name ++ gap) = some name := by
      unfold wordOf?
      rw [lastWord_append_spaces name hspaces, lastWord_eq_self hspace]
      exact nonEmpty?_eq_some_iff.2 ⟨rfl, hne⟩
    rw [hfound, hlast]
    simp [callableKind, hname]
  · obtain ⟨c, hc, hlast⟩ := exists_mem_lastWord name hblank
    have hsome : wordOf? (name ++ gap) = some (lastWord (name ++ gap)) :=
      nonEmpty?_eq_some_iff.2 ⟨rfl, List.ne_nil_of_mem hlast⟩
    have hlower : lower (lastWord (name ++ gap)) ≠ lower header.name := by
      intro heq
      refine not_mem_lower_of_isBlank hword (hgap c hc) ?_
      rw [← heq, mem_lower_iff (isBarrier_of_isBlank (hgap c hc)).1]
      exact hlast
    rw [hfound, hsome]
    refine ⟨?_, _, rfl, c, hlast, hgap c hc⟩
    simp [callableKind, hlower]

/-- A tabulator between the name and the parenthesis. -/
theorem constructor_spaces_tab :
    let line := "Foo\t(Integer x) \x7b".toList
    Line.opensConstructor "Foo".toList (Scope.normalize line) = true ∧
      (∃ name gap rest, line = name ++ gap ++ '(' :: rest ∧ lower name = "foo".toList ∧
        (∀ c ∈ gap, isBlank c) ∧ ∃ c ∈ gap, c ≠ ' ') ∧
      kindAndName line (some "foo".toList) = (.method, some "Foo\t".toList) := by
  intro line
  have hheader : TypeHeader.ofLine? "public class Foo \x7b".toList = some ⟨.classWord, "Foo".toList⟩ := by
    decide +kernel
  have hkept : Line.opensConstructor "Foo".toList (Scope.normalize line) = true := by decide +kernel
  have hstrip : trim (Annotations.strip line) = line := by decide +kernel
  have hlower : lower "Foo".toList = "foo".toList := by decide +kernel
  have hfound : kindAndName line (some "foo".toList) = (.method, some "Foo\t".toList) := by
    decide +kernel
  obtain ⟨name, gap, rest, hs, hname, hgap, hspaces, -⟩ :=
    constructor_spaces (show TypeHeader.ofLine? line = none by decide +kernel) hheader hkept
  rw [hstrip] at hs
  rw [hlower] at hname hspaces
  refine ⟨hkept, ⟨name, gap, rest, hs, hname, hgap, ?_⟩, hfound⟩
  by_contra hnone
  push Not at hnone
  cases (hfound.symm.trans (hspaces hnone))

end Declaration

end ApexOutline
