import ApexOutline.Proofs.Cut
/-!
# The grammar of type headers

`Spelling` is a type header as it is written: modifiers and the keyword, each with a gap behind it, the
name, and any text that does not go on with the name. A line without its annotations and outer blanks is
read as a header exactly when it is the text of a spelling (`ofWords?_words_text`, `exists_spelling`), and
of one spelling only (`Spelling.text_injective`): a word ends at the first blank, and no modifier is a
keyword.
-/

namespace ApexOutline.TypeHeader

open Text

/-! ## Headers as they are written -/

/-- A type header as it is written. Modifiers and the keyword are spelled up to case folding. -/
inductive Spelling where
  /-- The keyword, a gap, the name, and what follows it. -/
  | named (keyword : TypeKeyword) (word gap name rest : Text) (spells : foldsTo keyword.text word)
      (isGap : IsGap gap) (name_ne_nil : name ≠ []) (isWord_name : ∀ c ∈ name, isWord c)
      (name_ends : ∀ c ∈ rest.head?, isWord c = false)
  /-- A modifier and a gap before a header. -/
  | modified (word gap : Text) (spells : ∃ modifier ∈ modifiers, foldsTo modifier word)
      (isGap : IsGap gap) (header : Spelling)

/-- The text of a header. -/
def Spelling.text : Spelling → Text
  | .named _ word gap name rest _ _ _ _ _ => word ++ (gap ++ (name ++ rest))
  | .modified word gap _ _ header => word ++ (gap ++ header.text)

/-- What a header declares. -/
def Spelling.header : Spelling → TypeHeader
  | .named keyword _ _ name _ _ _ _ _ _ => ⟨keyword, name⟩
  | .modified _ _ _ _ header => header.header

variable {word gap : Text} {keyword : TypeKeyword} {ws : List Text}

/-! ## Words -/

theorem isModifier_iff : isModifier word = true ↔ ∃ modifier ∈ modifiers, foldsTo modifier word := by
  unfold isModifier
  rw [List.any_eq_true]

theorem isWord_of_isModifier (h : isModifier word = true) : ∀ c ∈ word, isWord c = true := by
  intro c hc
  by_contra hword
  rw [isModifier_of_not_isWord (Bool.not_eq_true _ ▸ hword) hc] at h
  cases h

theorem isWord_of_keyword (h : foldsTo keyword.text word) : ∀ c ∈ word, isWord c = true := by
  intro c hc
  by_contra hword
  rw [foldsTo_of_not_isWord keyword.isWord_text (Bool.not_eq_true _ ▸ hword) hc] at h
  cases h

theorem isBlank_of_isModifier (h : isModifier word = true) : ∀ c ∈ word, isBlank c = false :=
  fun c hc => isBlank_of_isWord (isWord_of_isModifier h c hc)

theorem isBlank_of_keyword (h : foldsTo keyword.text word) : ∀ c ∈ word, isBlank c = false :=
  fun c hc => isBlank_of_isWord (isWord_of_keyword h c hc)

theorem ne_nil_of_isModifier (h : isModifier word = true) : word ≠ [] := by
  rintro rfl
  exact absurd h (by decide)

theorem ne_nil_of_keyword (h : foldsTo keyword.text word) : word ≠ [] := by
  rintro rfl
  cases keyword <;> exact absurd h (by decide)

/-- A word that spells a keyword is no modifier, and spells no other keyword. -/
theorem isModifier_of_keyword (h : foldsTo keyword.text word) : isModifier word = false := by
  have hapart : modifiers.all (fun m => m != keyword.text) = true := by cases keyword <;> decide
  unfold isModifier
  rw [List.any_eq_false]
  intro m hm hfold
  apply bne_iff_ne.1 (List.all_eq_true.1 hapart m hm)
  exact (beq_iff_eq.1 hfold).symm.trans (beq_iff_eq.1 h)

theorem keyword_injective {keyword' : TypeKeyword} (h : foldsTo keyword.text word)
    (h' : foldsTo keyword'.text word) : keyword = keyword' := by
  have htext : keyword.text = keyword'.text := (beq_iff_eq.1 h).symm.trans (beq_iff_eq.1 h')
  cases keyword <;> cases keyword' <;> first | rfl | exact absurd htext (by decide)

theorem ofWord?_eq_some_iff : TypeKeyword.ofWord? word = some keyword ↔ foldsTo keyword.text word := by
  constructor
  · intro h
    exact List.find?_some (p := fun k : TypeKeyword => foldsTo k.text word) h
  · intro h
    cases hfind : TypeKeyword.ofWord? word with
    | some keyword' =>
      have h' := List.find?_some (p := fun k : TypeKeyword => foldsTo k.text word) hfind
      rw [keyword_injective h h']
    | none =>
      have hnone := List.find?_eq_none.1 hfind keyword (by cases keyword <;> simp)
      exact absurd h hnone

theorem ofWords?_cons_modifier (h : isModifier word = true) (ws : List Text) :
    ofWords? (word :: ws) = ofWords? ws := by
  unfold ofWords?
  rw [List.dropWhile_cons_of_pos h]

/-- Words of which the first is no modifier are a header when it spells a keyword and a name opens the
second. -/
theorem ofWords?_cons_iff (h : isModifier word = false) {header : TypeHeader} :
    ofWords? (word :: ws) = some header ↔
      ∃ next more, ws = next :: more ∧ foldsTo header.keyword.text word ∧
        next.takeWhile isWord = header.name ∧ header.name ≠ [] := by
  unfold ofWords?
  rw [List.dropWhile_cons_of_neg (by simp [h])]
  constructor
  · intro hread
    split at hread
    · rename_i word' next more hws
      obtain ⟨rfl, rfl⟩ := List.cons.inj hws
      split at hread
      · rename_i keyword c name hkeyword hname
        cases hread
        exact ⟨next, more, rfl, ofWord?_eq_some_iff.1 hkeyword, hname, List.cons_ne_nil c name⟩
      · cases hread
    · cases hread
  · rintro ⟨next, more, rfl, hkeyword, hname, hne⟩
    obtain ⟨keyword, name⟩ := header
    obtain ⟨c, name, rfl⟩ := List.exists_cons_of_ne_nil hne
    simp only [ofWord?_eq_some_iff.2 hkeyword, hname]

/-! ## A spelling is read -/

/-- The name opens the word that it stands in. -/
theorem words_name {name rest : Text} (hne : name ≠ []) (hname : ∀ c ∈ name, isWord c)
    (hrest : ∀ c ∈ rest.head?, isWord c = false) :
    ∃ next more, words (name ++ rest) = next :: more ∧ next.takeWhile isWord = name := by
  obtain ⟨c, name, rfl⟩ := List.exists_cons_of_ne_nil hne
  obtain ⟨hc, hblanks⟩ := List.forall_mem_cons.1 fun d hd => isBlank_of_isWord (hname d hd)
  rw [List.cons_append, words_cons hc]
  refine ⟨_, _, rfl, ?_⟩
  rw [List.takeWhile_append_of_pos fun d hd => by simp [hblanks d hd], ← List.cons_append,
    takeWhile_append_of_stop, List.takeWhile_eq_self_iff.2 hname]
  intro d hd
  cases rest with
  | nil => cases hd
  | cons e rest =>
    by_cases he : isBlank e = true
    · simp [he] at hd
    · simp only [Bool.not_eq_true] at he
      simp only [List.takeWhile_cons, he, Bool.not_false, if_true, List.head?_cons, Option.mem_def,
        Option.some.injEq] at hd
      rw [← hd]
      exact hrest e rfl

theorem ofWords?_words_text (p : Spelling) : ofWords? (words p.text) = some p.header := by
  induction p with
  | named keyword word gap name rest spells isGap hne hname hends =>
    have hwords := words_append_gap (ne_nil_of_keyword spells) (isBlank_of_keyword spells) isGap (name ++ rest)
    obtain ⟨next, more, hnext, htake⟩ := words_name hne hname hends
    rw [Spelling.text, hwords, ofWords?_cons_iff (isModifier_of_keyword spells)]
    exact ⟨next, more, hnext, spells, htake, hne⟩
  | modified word gap spells isGap header ih =>
    have hmodifier := isModifier_iff.2 spells
    have hwords :=
      words_append_gap (ne_nil_of_isModifier hmodifier) (isBlank_of_isModifier hmodifier) isGap header.text
    rw [Spelling.text, hwords, ofWords?_cons_modifier hmodifier, ih]
    rfl

/-! ## What is read is a spelling -/

/-- A text that starts with a word is that word, blanks, and a text that starts with the next word. -/
theorem exists_of_words_eq_cons {s : Text} (hs : ∀ c ∈ s.head?, isBlank c = false)
    (h : words s = word :: ws) :
    ∃ gap rest, s = word ++ (gap ++ rest) ∧ (∀ c ∈ (gap ++ rest).head?, isBlank c) ∧
      (∀ c ∈ rest.head?, isBlank c = false) ∧ words rest = ws ∧ (ws ≠ [] → IsGap gap) := by
  cases s with
  | nil => rw [words_nil] at h; cases h
  | cons c t =>
    rw [words_cons (hs c rfl)] at h
    obtain ⟨rfl, rfl⟩ := List.cons.inj h
    generalize hu : t.dropWhile (!isBlank ·) = u
    have hsplit : u.takeWhile isBlank ++ trimStart u = u := List.takeWhile_append_dropWhile
    have hends : ∀ b ∈ u.head?, isBlank b = true := by
      intro b hb
      simpa using head_dropWhile (!isBlank ·) t b (by rw [hu]; exact hb)
    refine ⟨u.takeWhile isBlank, trimStart u, ?_, ?_, ?_, words_trimStart u, ?_⟩
    · rw [hsplit, ← hu, List.cons_append, List.takeWhile_append_dropWhile]
    · rw [hsplit]
      exact hends
    · exact head_dropWhile isBlank u
    · intro hne
      refine ⟨?_, fun d hd => List.mem_takeWhile_imp hd⟩
      cases u with
      | nil => rw [words_nil] at hne; exact absurd rfl hne
      | cons b u =>
        rw [List.takeWhile_cons_of_pos (hends b rfl)]
        exact List.cons_ne_nil _ _

theorem exists_spelling {s : Text} {header : TypeHeader} (hs : ∀ c ∈ s.head?, isBlank c = false)
    (hwords : words s = ws) (h : ofWords? ws = some header) :
    ∃ p : Spelling, p.text = s ∧ p.header = header := by
  induction ws generalizing s with
  | nil => cases h
  | cons word ws ih =>
    obtain ⟨gap, rest, rfl, -, hrest, hws, hgap⟩ := exists_of_words_eq_cons hs hwords
    cases hmodifier : isModifier word with
    | true =>
      rw [ofWords?_cons_modifier hmodifier] at h
      have hne : ws ≠ [] := by
        rintro rfl
        cases h
      obtain ⟨p, htext, hheader⟩ := ih hrest hws h
      refine ⟨.modified word gap (isModifier_iff.1 hmodifier) (hgap hne) p, ?_, hheader⟩
      rw [Spelling.text, htext]
    | false =>
      obtain ⟨next, more, rfl, hkeyword, hname, hne⟩ := (ofWords?_cons_iff hmodifier).1 h
      obtain ⟨gap', rest', hnext, hblank', -, -, -⟩ := exists_of_words_eq_cons hrest hws
      have hsplit : rest = header.name ++ (next.dropWhile isWord ++ (gap' ++ rest')) := by
        rw [hnext, ← hname, ← List.append_assoc (next.takeWhile isWord), List.takeWhile_append_dropWhile]
      have hends : ∀ c ∈ (next.dropWhile isWord ++ (gap' ++ rest')).head?, isWord c = false := by
        intro c hc
        cases hdrop : next.dropWhile isWord with
        | cons d more =>
          rw [hdrop] at hc
          exact head_dropWhile isWord next c (by rw [hdrop]; exact hc)
        | nil =>
          rw [hdrop, List.nil_append] at hc
          exact isWord_of_isBlank (hblank' c hc)
      have hword : ∀ c ∈ header.name, isWord c := by
        intro c hc
        rw [← hname] at hc
        exact List.mem_takeWhile_imp hc
      refine ⟨.named header.keyword word gap header.name _ hkeyword (hgap (List.cons_ne_nil _ _)) hne hword
        hends, ?_, rfl⟩
      rw [Spelling.text, ← hsplit]

/-! ## One spelling -/

theorem head_append_name {name : Text} (hne : name ≠ []) (hname : ∀ c ∈ name, isWord c) (rest : Text) :
    ∀ c ∈ (name ++ rest).head?, isBlank c = false := by
  obtain ⟨d, name, rfl⟩ := List.exists_cons_of_ne_nil hne
  rintro c ⟨⟩
  exact isBlank_of_isWord (hname d List.mem_cons_self)

/-- No spelling starts with a blank. -/
theorem Spelling.head_text (p : Spelling) : ∀ c ∈ p.text.head?, isBlank c = false := by
  cases p with
  | named keyword word gap name rest spells isGap hne hname hends =>
    exact head_append_name (ne_nil_of_keyword spells) (isWord_of_keyword spells) _
  | modified word gap spells isGap header =>
    have hmodifier := isModifier_iff.2 spells
    exact head_append_name (ne_nil_of_isModifier hmodifier) (isWord_of_isModifier hmodifier) _

/-- A text has at most one spelling. -/
theorem Spelling.text_injective {p p' : Spelling} (h : p.text = p'.text) : p = p' := by
  induction p generalizing p' with
  | named keyword word gap name rest spells isGap hne hname hends =>
    have hstart := head_append_name hne hname rest
    cases p' with
    | named keyword' word' gap' name' rest' spells' isGap' hne' hname' hends' =>
      obtain ⟨rfl, rfl, htail⟩ := append_gap_inj (isBlank_of_keyword spells) (isBlank_of_keyword spells')
        isGap isGap' hstart (head_append_name hne' hname' rest') h
      obtain ⟨rfl, rfl⟩ := append_inj_of_stop hname hname' hends hends' htail
      obtain rfl := keyword_injective spells spells'
      rfl
    | modified word' gap' spells' isGap' header' =>
      have hmodifier := isModifier_iff.2 spells'
      obtain ⟨rfl, -⟩ := append_gap_inj (isBlank_of_keyword spells) (isBlank_of_isModifier hmodifier)
        isGap isGap' hstart header'.head_text h
      rw [isModifier_of_keyword spells] at hmodifier
      cases hmodifier
  | modified word gap spells isGap header ih =>
    have hmodifier := isModifier_iff.2 spells
    cases p' with
    | named keyword' word' gap' name' rest' spells' isGap' hne' hname' hends' =>
      obtain ⟨rfl, -⟩ := append_gap_inj (isBlank_of_isModifier hmodifier) (isBlank_of_keyword spells')
        isGap isGap' header.head_text (head_append_name hne' hname' rest') h
      rw [isModifier_of_keyword spells'] at hmodifier
      cases hmodifier
    | modified word' gap' spells' isGap' header' =>
      obtain ⟨rfl, rfl, htail⟩ := append_gap_inj (isBlank_of_isModifier hmodifier)
        (isBlank_of_isModifier (isModifier_iff.2 spells')) isGap isGap' header.head_text header'.head_text h
      rw [ih htail]

/-! ## Lines -/

/-- A line is read as a type header exactly when it is spelled as one, its annotations and outer blanks
dropped: modifiers with gaps behind them, the keyword and a gap, and the name, up to the end or to a
character that is no word character. The line is spelled as a header in at most one way. -/
theorem header_grammar (line : Text) :
    (∀ keyword name, ofLine? line = some ⟨keyword, name⟩ ↔
      ∃ p : Spelling, p.text = trim (Annotations.strip line) ∧ p.header = ⟨keyword, name⟩) ∧
    ∀ p p' : Spelling, p.text = trim (Annotations.strip line) → p'.text = trim (Annotations.strip line) →
      p = p' := by
  refine ⟨?_, ?_⟩
  · intro keyword name
    have hread : ofLine? line = ofWords? (words (trim (Annotations.strip line))) := by
      rw [words_trim]
      rfl
    rw [hread]
    constructor
    · intro h
      exact exists_spelling (head_trim _) rfl h
    · rintro ⟨p, htext, hheader⟩
      rw [← htext, ofWords?_words_text, hheader]
  · intro p p' h h'
    exact Spelling.text_injective (h.trans h'.symm)

/-- The modifiers are in capitals and with a long s, the gaps of several kinds, the keyword has a long s as
well, and the name is itself a keyword. There is no other way to take the line apart. -/
theorem header_grammar_folded :
    let line := " @IsTest(SeeAllData=true) PUBLIC\t with  \u017fharing cla\u017fS class\x7b\x7d".toList
    ofLine? line = some ⟨.classWord, "class".toList⟩ ∧
      ∃ p : Spelling, ∀ p' : Spelling, p'.text = trim (Annotations.strip line) → p' = p := by
  intro line
  let named : Spelling := .named .classWord "cla\u017fS".toList " ".toList "class".toList "\x7b\x7d".toList
    (by decide) (by decide) (by decide) (List.all_eq_true.1 (by decide)) (by rintro c ⟨⟩; decide)
  let sharing : Spelling := .modified "\u017fharing".toList " ".toList
    ⟨"sharing".toList, by decide, by decide⟩ (by decide) named
  let joined : Spelling := .modified "with".toList "  ".toList ⟨"with".toList, by decide, by decide⟩
    (by decide) sharing
  let p : Spelling := .modified "PUBLIC".toList "\t ".toList ⟨"public".toList, by decide, by decide⟩
    (by decide) joined
  have htext : p.text = trim (Annotations.strip line) := by decide
  refine ⟨((header_grammar line).1 _ _).2 ⟨p, htext, rfl⟩, p, ?_⟩
  intro p' hp'
  exact (header_grammar line).2 p' p hp' htext

end ApexOutline.TypeHeader
