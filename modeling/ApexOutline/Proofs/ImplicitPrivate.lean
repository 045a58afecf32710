import ApexOutline.Declaration
import ApexOutline.Proofs.Cut
/-!
# Private by shape

A line that no listed keyword opens is taken as private by its first word: `static`, a modifier, a primitive
type or a collection (`exists_lead`). So no access modifier is its first word. The words behind the first are
looked at for the word `testmethod` only, and an access modifier among them is not seen
(`isImplicitlyPrivate_insert`): the line is private with it as it is without it (`private_by_first_word`).
-/

namespace ApexOutline

open Text

namespace Keyword

theorem opensCollection_iff {t : Text} :
    opensCollection t = true ↔
      ∃ word ∈ Category.collection.words, ∃ gap u r, (∀ c ∈ gap, isBlank c) ∧
        t = word ++ gap ++ '<' :: (u ++ '>' :: r) ∧ u ≠ [] ∧ '\n' ∉ u := by
  unfold opensCollection
  rw [List.any_eq_true]
  refine exists_congr fun word => and_congr_right fun _ => ?_
  constructor
  · intro h
    split at h
    · rename_i rest hrest
      obtain ⟨u, r, hu, hne, hn⟩ := startsWithParameters_iff.1 h
      obtain ⟨gap, hgap, rfl⟩ := (trimStart_eq_cons_iff (by decide)).1 hu
      rw [after?_eq_some_iff, ← List.append_assoc] at hrest
      exact ⟨gap, u, r, hgap, hrest, hne, hn⟩
    · cases h
  · rintro ⟨gap, u, r, hgap, rfl, hne, hn⟩
    rw [List.append_assoc, after?_eq_some_iff.2 rfl]
    simp only
    rw [(trimStart_eq_cons_iff (by decide)).2 ⟨gap, hgap, rfl⟩]
    exact startsWithParameters_iff.2 ⟨u, r, rfl, hne, hn⟩

/-- What a word at the start opens is told by any part with a blank in it. -/
theorem opens_append {word front : Text} (hword : ∀ c ∈ word, isWord c = true) {b : Char} (hb : isBlank b)
    (hmem : b ∈ front) (t u : Text) (h : opens word (front ++ t) = true) : opens word (front ++ u) = true := by
  rw [opens_iff] at h ⊢
  obtain ⟨hne, d, hd, hprefix⟩ := h
  refine ⟨hne, d, hd, ?_⟩
  rcases List.prefix_or_prefix_of_prefix hprefix (List.prefix_append front t) with hfront | hfront
  · exact hfront.trans (List.prefix_append front u)
  · rcases List.prefix_concat_iff.1 hfront with heq | hfront
    · rw [heq]
      exact List.prefix_append _ _
    · have hchar := hword b (hfront.subset hmem)
      rw [isWord_of_isBlank hb] at hchar
      cases hchar

end Keyword

namespace Scope

/-- The words that say who may use a member, other than `private`. -/
def accessWords : List Text :=
  ["global".toList, "public".toList, "protected".toList, "webservice".toList]

/-- The characters in front of which the modifiers, the type and the name of a member stand. -/
def endsHead (c : Char) : Bool :=
  c == '(' || Declaration.endsName c

/-- The words of a line before its first `(`, `=`, `;` or `{`. -/
def headWords (t : Text) : List Text :=
  words (t.takeWhile (!endsHead ·))

/-- The words that open a line which is private by its shape. -/
def leads : List Text :=
  "static".toList :: (Keyword.Category.modifier.words ++ Keyword.Category.primitive.words ++
    Keyword.Category.collection.words)

variable {line line' t front back access : Text} {scopes : ScopeList}

/-! ## The first word -/

/-- A line that is private by its shape opens with one of a few words. -/
theorem exists_lead (h : isImplicitlyPrivate t = true) : ∃ word ∈ leads, word <+: t := by
  have hopens {word : Text} (h : Keyword.opens word t = true) : word <+: t := by
    obtain ⟨-, b, -, hprefix⟩ := Keyword.opens_iff.1 h
    exact (List.prefix_append word [b]).trans hprefix
  unfold isImplicitlyPrivate at h
  simp only [Bool.or_eq_true, Bool.and_eq_true] at h
  rcases h with ⟨hstatic, -⟩ | ⟨hmember | hcollection, -⟩
  · exact ⟨_, List.mem_cons_self, hopens hstatic⟩
  · obtain ⟨word, hword, hopen⟩ := List.any_eq_true.1 hmember
    exact ⟨word, List.mem_cons_of_mem _ (List.mem_append_left _ hword), hopens hopen⟩
  · obtain ⟨word, hword, gap, u, r, -, rfl, -⟩ := Keyword.opensCollection_iff.1 hcollection
    refine ⟨word, List.mem_cons_of_mem _ (List.mem_append_right _ hword), ?_⟩
    rw [List.append_assoc]
    exact List.prefix_append _ _

theorem isWord_of_mem_leads {word : Text} (h : word ∈ leads) : ∀ c ∈ word, isWord c = true := by
  rcases List.mem_cons.1 h with rfl | h
  · exact isWord_static
  rcases List.mem_append.1 h with h | h
  · exact Keyword.isWord_of_opensMember h
  · exact Keyword.isWord_of_mem_words h

theorem endsHead_eq_false {c : Char} (h : isWord c = true ∨ isBlank c = true) : endsHead c = false := by
  by_contra hends
  simp only [endsHead, Declaration.endsName, Bool.not_eq_false, Bool.or_eq_true, beq_iff_eq] at hends
  rcases hends with rfl | (rfl | rfl) | rfl <;> exact absurd h (by decide)

/-- The first of the words before any symbol begins with the lead. -/
theorem headWords_of_lead {word : Text} (hword : word ∈ leads) (h : word <+: t) :
    ∃ first rest, headWords t = first :: rest ∧ word <+: first := by
  obtain ⟨more, rfl⟩ := h
  have hchars := isWord_of_mem_leads hword
  obtain ⟨c, w, rfl⟩ : ∃ c w, word = c :: w := by
    refine List.exists_cons_of_ne_nil ?_
    rintro rfl
    exact absurd hword (by decide)
  have hhead : (c :: w ++ more).takeWhile (!endsHead ·) = c :: (w ++ more.takeWhile (!endsHead ·)) :=
    List.takeWhile_append_of_pos fun d hd => by rw [endsHead_eq_false (.inl (hchars d hd))]; rfl
  unfold headWords
  rw [hhead, words_cons (isBlank_of_isWord (hchars c List.mem_cons_self))]
  refine ⟨_, _, rfl, List.cons_prefix_cons.2 ⟨rfl, ?_⟩⟩
  rw [List.takeWhile_append_of_pos fun d hd => by
    rw [isBlank_of_isWord (hchars d (List.mem_cons_of_mem c hd))]; rfl]
  exact List.prefix_append _ _

/-- No access modifier is the first word of a line that is private by its shape. -/
theorem exists_headWords (h : isImplicitlyPrivate t = true) :
    ∃ first rest, headWords t = first :: rest ∧ first ∉ accessWords := by
  obtain ⟨word, hword, hprefix⟩ := exists_lead h
  obtain ⟨first, rest, hwords, hfirst⟩ := headWords_of_lead hword hprefix
  refine ⟨first, rest, hwords, fun haccess => ?_⟩
  have hapart : leads.all (fun word => accessWords.all (!word.isPrefixOf ·)) = true := by decide
  have hnot := List.all_eq_true.1 (List.all_eq_true.1 hapart word hword) first haccess
  simp [List.isPrefixOf_iff_prefix.2 hfirst] at hnot

/-! ## The words behind it -/

theorem isWord_of_mem_accessWords (h : access ∈ accessWords) : ∀ c ∈ access, isWord c = true := by
  have hall : accessWords.all (·.all isWord) = true := by decide
  exact List.all_eq_true.1 (List.all_eq_true.1 hall access h)

theorem hasWord_testWord_access (h : access ∈ accessWords) : hasWord testWord access = false := by
  have hall : accessWords.all (!hasWord testWord ·) = true := by decide
  simpa using List.all_eq_true.1 hall access h

theorem words_access (h : access ∈ accessWords) : words access = [access] := by
  have hall : accessWords.all (fun access => words access == [access]) = true := by decide
  simpa using List.all_eq_true.1 hall access h

theorem startsCollection_bracket {word gap rest : Text}
    (hword : word ∈ Keyword.Category.collection.words) (hgap : ∀ c ∈ gap, isBlank c) :
    Keyword.startsCollection (word ++ gap ++ '<' :: rest) = true := by
  refine List.any_eq_true.2 ⟨word, hword, (opensBefore_iff (by decide)).2 ⟨gap, hgap, rest, ?_⟩⟩
  rw [List.append_assoc, List.singleton_append]

/-- A collection with its parameters is one with more words behind its opening bracket. -/
theorem opensCollection_insert {b : Char} (hb : isBlank b) (haccess : access ∈ accessWords)
    (hbracket : Keyword.startsCollection (front ++ b :: back) = true → '<' ∈ front)
    (h : Keyword.opensCollection (front ++ b :: back) = true) :
    Keyword.opensCollection (front ++ b :: (access ++ ' ' :: back)) = true := by
  rw [Keyword.opensCollection_iff] at h ⊢
  obtain ⟨word, hword, gap, u, r, hgap, hline, hne, hn⟩ := h
  rw [hline] at hbracket
  have hmem := hbracket (startsCollection_bracket hword hgap)
  have hlead : '<' ∉ word ++ gap := by
    intro hless
    rcases List.mem_append.1 hless with hless | hless
    · exact absurd (Keyword.isWord_of_mem_words hword _ hless) (by decide)
    · exact absurd (hgap _ hless) (by decide)
  obtain ⟨f, rfl, hf⟩ : ∃ f, front = word ++ gap ++ '<' :: f ∧ f ++ b :: back = u ++ '>' :: r := by
    rcases List.append_eq_append_iff.1 hline with ⟨f, hf, -⟩ | ⟨f, hf, hrest⟩
    · exact absurd (hf ▸ List.mem_append_left f hmem) hlead
    · cases f with
      | nil => exact absurd (by simpa [hf] using hmem) hlead
      | cons c f =>
        obtain ⟨rfl, hparameters⟩ := List.cons.inj hrest
        exact ⟨f, hf, hparameters.symm⟩
  have hclose : b ≠ '>' := by
    rintro rfl
    exact absurd hb (by decide)
  refine ⟨word, hword, gap, ?_⟩
  rcases List.append_eq_append_iff.1 hf with ⟨v, rfl, hv⟩ | ⟨v, rfl, hv⟩
  · cases v with
    | nil => exact absurd (List.cons.inj hv).1 hclose
    | cons d v =>
      obtain ⟨rfl, rfl⟩ := List.cons.inj hv
      refine ⟨f ++ b :: (access ++ ' ' :: v), r, hgap, by simp, by simp, ?_⟩
      have hnewline : '\n' ∉ access := fun hmem =>
        absurd (isWord_of_mem_accessWords haccess _ hmem) (by decide)
      simp only [List.mem_append, List.mem_cons, not_or] at hn ⊢
      exact ⟨hn.1, hn.2.1, hnewline, by decide, hn.2.2⟩
  · cases v with
    | nil => exact absurd (List.cons.inj hv).1.symm hclose
    | cons d v =>
      obtain ⟨rfl, rfl⟩ := List.cons.inj hv
      exact ⟨u, v ++ b :: (access ++ ' ' :: back), hgap, by simp, hne, hn⟩

/-- An access modifier behind the first word does not keep a line from being private by its shape. -/
theorem isImplicitlyPrivate_insert {b : Char} (hb : isBlank b) (haccess : access ∈ accessWords)
    (hbracket : Keyword.startsCollection (front ++ b :: back) = true → '<' ∈ front)
    (h : isImplicitlyPrivate (front ++ b :: back) = true) :
    isImplicitlyPrivate (front ++ b :: (access ++ ' ' :: back)) = true := by
  have hopens {word : Text} (hword : ∀ c ∈ word, isWord c = true)
      (h : Keyword.opens word (front ++ b :: back) = true) :
      Keyword.opens word (front ++ b :: (access ++ ' ' :: back)) = true := by
    rw [← List.singleton_append, ← List.append_assoc] at h ⊢
    exact Keyword.opens_append hword hb (by simp) _ _ h
  unfold isImplicitlyPrivate at h ⊢
  simp only [Bool.or_eq_true, Bool.and_eq_true, Bool.not_eq_true', List.contains_iff_mem] at h ⊢
  have hparen (h : '(' ∈ front ++ b :: back) : '(' ∈ front ++ b :: (access ++ ' ' :: back) := by
    simp only [List.mem_append, List.mem_cons] at h ⊢
    exact h.imp_right (Or.imp_right fun hback => .inr (.inr hback))
  rcases h with ⟨hstatic, htest⟩ | ⟨hmember | hcollection, hmem⟩
  · refine .inl ⟨hopens isWord_static hstatic, ?_⟩
    rw [hasWord_append (isWord_of_isBlank hb), Bool.or_eq_false_iff] at htest ⊢
    refine ⟨htest.1, ?_⟩
    rw [hasWord_append (by decide), hasWord_testWord_access haccess, htest.2]
    rfl
  · obtain ⟨word, hword, hopen⟩ := List.any_eq_true.1 hmember
    refine .inr ⟨.inl (List.any_eq_true.2 ⟨word, hword, ?_⟩), hparen hmem⟩
    exact hopens (Keyword.isWord_of_opensMember hword) hopen
  · exact .inr ⟨.inr (opensCollection_insert hb haccess hbracket hcollection), hparen hmem⟩

/-- An access modifier before any symbol is one of the words there. -/
theorem mem_headWords_insert {b : Char} (hb : isBlank b) (haccess : access ∈ accessWords)
    (hfront : ∀ c ∈ front, endsHead c = false) :
    access ∈ headWords (front ++ b :: (access ++ ' ' :: back)) := by
  have hsplit : front ++ b :: (access ++ ' ' :: back) = front ++ b :: (access ++ [' ']) ++ back := by simp
  have hhead : ∀ c ∈ front ++ b :: (access ++ [' ']), (!endsHead c) = true := by
    simp only [List.mem_append, List.mem_cons, List.not_mem_nil, or_false, Bool.not_eq_true']
    rintro c (hc | rfl | hc | rfl)
    · exact hfront c hc
    · exact endsHead_eq_false (.inr hb)
    · exact endsHead_eq_false (.inl (isWord_of_mem_accessWords haccess c hc))
    · rfl
  unfold headWords
  rw [hsplit, List.takeWhile_append_of_pos hhead, List.append_assoc, List.cons_append,
    words_append_blank hb, List.append_assoc, List.singleton_append, words_append_blank (by decide),
    words_access haccess]
  simp

/-! ## Lines -/

theorem ofLine?_of_not_explicit
    (h : ∀ keyword ∈ scopes.keywords, isExplicit (normalize line) keyword = false) :
    ofLine? line scopes =
      if isImplicitlyPrivate (normalize line) then scopes.find? privateWord else none := by
  have hnone : scopes.keywords.find? (isExplicit (normalize line)) = none :=
    List.find?_eq_none.2 fun keyword hkeyword => by simp [h keyword hkeyword]
  simp only [ofLine?, hnone]

/-- A line that no listed keyword opens is private by its first word alone. The scope is then the listed
`private`, and no access modifier is the first of the words before its first symbol; so there is none among
them exactly when there is none behind the first. But one behind the first changes nothing: put in after any
blank of the line (and after the bracket, where a collection opens the line), it leaves the line private. -/
theorem private_by_first_word {line scope : Text} {scopes : ScopeList}
    (hexplicit : ∀ keyword ∈ scopes.keywords, isExplicit (normalize line) keyword = false)
    (h : ofLine? line scopes = some scope) :
    scopes.find? privateWord = some scope ∧
      (∃ first rest, headWords (normalize line) = first :: rest ∧ first ∉ accessWords ∧
        ((∀ word ∈ headWords (normalize line), word ∉ accessWords) ↔ ∀ word ∈ rest, word ∉ accessWords)) ∧
      ∀ front b back access line', normalize line = front ++ b :: back → isBlank b = true →
        (Keyword.startsCollection (normalize line) = true → '<' ∈ front) → access ∈ accessWords →
        normalize line' = front ++ b :: (access ++ ' ' :: back) →
        (∀ keyword ∈ scopes.keywords, isExplicit (normalize line') keyword = false) →
        ofLine? line' scopes = some scope ∧
          ((∀ c ∈ front, endsHead c = false) → access ∈ headWords (normalize line')) := by
  rw [ofLine?_of_not_explicit hexplicit] at h
  obtain ⟨hshape, hprivate⟩ : isImplicitlyPrivate (normalize line) = true ∧
      scopes.find? privateWord = some scope := by
    split at h
    · rename_i hshape
      exact ⟨hshape, h⟩
    · cases h
  refine ⟨hprivate, ?_, ?_⟩
  · obtain ⟨first, rest, hwords, hfirst⟩ := exists_headWords hshape
    refine ⟨first, rest, hwords, hfirst, ?_⟩
    rw [hwords, List.forall_mem_cons]
    exact and_iff_right hfirst
  · intro front b back access line' hline hb hbracket haccess hline' hexplicit'
    rw [hline] at hshape hbracket
    have hshape' := isImplicitlyPrivate_insert hb haccess hbracket hshape
    rw [ofLine?_of_not_explicit hexplicit', hline', if_pos hshape']
    exact ⟨hprivate, fun hfront => mem_headWords_insert hb haccess hfront⟩

/-- A static method is private, and so is the same method with `public` behind `static`. -/
theorem private_by_first_word_static :
    let scopes : ScopeList := ⟨["private".toList]⟩
    let line := "static void f()".toList
    let line' := "static public void f()".toList
    (∀ keyword ∈ scopes.keywords, isExplicit (normalize line) keyword = false) ∧
      ofLine? line scopes = some "private".toList ∧ ofLine? line' scopes = some "private".toList ∧
      "public".toList ∈ headWords (normalize line') := by
  intro scopes line line'
  have hexplicit : ∀ keyword ∈ scopes.keywords, isExplicit (normalize line) keyword = false := by
    decide +kernel
  have hscope : ofLine? line scopes = some "private".toList := by decide +kernel
  obtain ⟨-, -, hinsert⟩ := private_by_first_word hexplicit hscope
  obtain ⟨hscope', hpublic⟩ := hinsert "static".toList ' ' "void f()".toList "public".toList line'
    (by decide +kernel) (by decide) (by decide +kernel) (by decide) (by decide +kernel) (by decide +kernel)
  exact ⟨hexplicit, hscope, hscope', hpublic fun c hc => endsHead_eq_false (.inl (isWord_static c hc))⟩

end Scope

end ApexOutline
