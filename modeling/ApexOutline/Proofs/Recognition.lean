import ApexOutline.Proofs.HeaderGrammar
import ApexOutline.Proofs.LeadingAnnotations
/-!
# Looser tests of a line

Besides reading a type header, three looser tests ask whether a line mentions a keyword. They look at the
lowercase of the line, two of them with its annotations left on. An annotation ends before a character that
starts a word (`Part.Complete.hasWord_lower`), and a word that spells a keyword has that keyword as its lowercase
unless it holds a long s (`lower_of_foldsTo`); so the tests find the keyword of every header without a long s
(`Spelling.hasWord_lower`). A header opens with `enum` exactly when that is its keyword and nothing but one
access modifier stands before it (`Spelling.opensEnum_iff`).
-/

namespace ApexOutline

open Text

/-! ## Words behind annotations -/

namespace Annotations

variable {w line rest : Text} {parts : List Part}

/-- The last character of an argument list and the blanks behind it ends no word. -/
theorem Part.exists_barrier {p : Part} (h : p.annotation.arguments ++ p.after ≠ []) :
    ∃ s b, p.text = s ++ [b] ∧ IsBarrier b ∧ isWord b = false := by
  rcases List.eq_nil_or_concat p.after with hafter | ⟨blanks, b, hafter⟩
  · rw [hafter, List.append_nil] at h
    obtain ⟨gap, inside, hargs⟩ : ∃ gap inside, p.annotation.arguments = gap ++ '(' :: (inside ++ [')']) := by
      rcases p.annotation.isArgumentList with hnil | hlist
      · exact absurd hnil h
      · generalize p.annotation.arguments = arguments at hlist
        cases hlist
        exact ⟨_, _, rfl⟩
    refine ⟨p.before ++ '@' :: (p.annotation.name ++ (gap ++ '(' :: inside)), ')', ?_, by decide +kernel, by decide⟩
    simp [Part.text, Annotation.text, hafter, hargs]
  · rw [List.concat_eq_append] at hafter
    have hb : isBlank b = true := p.isBlank_after b (by rw [hafter]; simp)
    refine ⟨p.before ++ (p.annotation.text ++ blanks), b, ?_, isBarrier_of_isBlank hb, isWord_of_isBlank hb⟩
    simp [Part.text, hafter]

/-- Taking off a part takes off no word of what follows it. -/
theorem Part.Complete.hasWord_lower {p : Part} (hp : p.Complete rest)
    (hhead : ∀ c ∈ rest.head?, isWord c = true ∨ IsBarrier c) (h : hasWord w (lower rest) = true) :
    hasWord w (lower (p.text ++ rest)) = true := by
  cases rest with
  | nil =>
    rw [show lower [] = [] from rfl, hasWord_nil] at h
    cases h
  | cons c rest =>
    cases hc : isWord c with
    | true =>
      have hne : p.annotation.arguments ++ p.after ≠ [] := by
        intro hnil
        have hends := hp.name_ends c (by rw [← List.append_assoc, hnil]; rfl)
        rw [hc] at hends
        cases hends
      obtain ⟨s, b, htext, hb, hword⟩ := Part.exists_barrier hne
      rw [htext, List.append_assoc, List.singleton_append, hasWord_lower_append_barrier hb hword, h, Bool.or_true]
    | false =>
      have hb : IsBarrier c := (hhead c rfl).resolve_left (by simp [hc])
      have hrest := hasWord_lower_append_barrier hb hc w [] rest
      rw [List.nil_append, show lower [] = [] from rfl, hasWord_nil, Bool.false_or] at hrest
      rw [hasWord_lower_append_barrier hb hc, ← hrest, h, Bool.or_true]

theorem Part.head_text (p : Part) (rest : Text) :
    ∀ c ∈ (p.text ++ rest).head?, isWord c = true ∨ IsBarrier c := by
  intro c hc
  cases hbefore : p.before with
  | nil =>
    simp only [Part.text, Annotation.text, hbefore, List.nil_append, List.cons_append, List.head?_cons,
      Option.mem_def, Option.some.injEq] at hc
    rw [← hc]
    exact .inr (by decide +kernel)
  | cons b before =>
    simp only [Part.text, hbefore, List.cons_append, List.head?_cons, Option.mem_def, Option.some.injEq] at hc
    rw [← hc]
    exact .inr (isBarrier_of_isBlank (p.isBlank_before b (by rw [hbefore]; exact List.mem_cons_self)))

theorem Chain.hasWord_lower (hchain : Chain parts line rest)
    (hhead : ∀ c ∈ rest.head?, isWord c = true ∨ IsBarrier c) (h : hasWord w (lower rest) = true) :
    hasWord w (lower line) = true := by
  induction hchain with
  | nil => exact h
  | @cons p parts next rest hp hchain ih =>
    refine hp.hasWord_lower ?_ (ih hhead h)
    cases hchain with
    | nil => exact hhead
    | cons => exact Part.head_text _ _

/-- A word of what dropping the annotations leaves is a word of the line. -/
theorem hasWord_lower_of_strip (hhead : ∀ c ∈ (strip line).head?, isWord c = true ∨ IsBarrier c)
    (h : hasWord w (lower (strip line)) = true) : hasWord w (lower line) = true := by
  obtain ⟨parts, hchain, -⟩ := chain_stripUpTo limit line
  exact hchain.hasWord_lower hhead h

end Annotations

/-! ## Spellings and their lowercase -/

theorem hasWord_lower_trim (w t : Text) : hasWord w (lower (trim t)) = hasWord w (lower t) := by
  obtain ⟨before, after, ht, hbefore, hafter⟩ := exists_trim t
  conv_rhs => rw [ht, lower_append_blanks _ hafter, lower_blanks_append hbefore, Line.hasWord_append_blanks _ _ hafter,
    hasWord_blanks_append hbefore]

/-- Without a long s, only a word with the letter k has another spelling than those by case. -/
theorem lower_of_foldsTo {word t : Text} (h : foldsTo word t = true) (hk : 'k' ∉ word) (hs : 'ſ' ∉ t)
    (hword : lower word = word) : lower t = word := by
  have hfold : t.map fold = word := beq_iff_eq.1 h
  have hascii : lowerAscii t = word := by
    rw [← hfold]
    refine List.map_congr_left fun c hc => ?_
    have hlong : c ≠ 'ſ' := by rintro rfl; exact hs hc
    have hkelvin : c ≠ '\u212a' := by
      rintro rfl
      exact hk (hfold ▸ List.mem_map_of_mem hc)
    simp [fold, hlong, hkelvin]
  rw [← lower_lowerAscii, hascii, hword]

namespace TypeHeader

variable {word : Text} {keyword : TypeKeyword}

theorem lower_of_keyword (h : foldsTo keyword.text word = true) (hs : 'ſ' ∉ word) :
    lower word = keyword.text := by
  refine lower_of_foldsTo h ?_ hs ?_ <;> cases keyword <;> decide

theorem lower_of_modifier {modifier : Text} (hmodifier : modifier ∈ modifiers)
    (h : foldsTo modifier word = true) (hs : 'ſ' ∉ word) : lower word = modifier := by
  have hk : modifiers.all (!·.contains 'k') = true := by decide
  have hlower : modifiers.all (fun m => lower m == m) = true := by decide
  have hnot := List.all_eq_true.1 hk modifier hmodifier
  have hsame := List.all_eq_true.1 hlower modifier hmodifier
  exact lower_of_foldsTo h (by simpa using hnot) hs (by simpa using hsame)

/-- The words before the keyword. -/
def Spelling.leading : Spelling → List Text
  | .named _ _ _ _ _ _ _ _ _ _ => []
  | .modified word _ _ _ header => word :: header.leading

/-- A header without a long s mentions its keyword. -/
theorem Spelling.hasWord_lower (p : Spelling) (hs : 'ſ' ∉ p.text) :
    hasWord p.header.keyword.text (lower p.text) = true := by
  induction p with
  | named keyword word gap name rest spells isGap hne hname hends =>
    have hself : hasWord keyword.text keyword.text = true := by cases keyword <;> decide
    rw [Spelling.text, List.mem_append, not_or] at hs
    rw [Spelling.text, lower_append_gap _ isGap, hasWord_append_gap isGap, lower_of_keyword spells hs.1]
    simp [Spelling.header, hself]
  | modified word gap spells isGap header ih =>
    rw [Spelling.text, List.mem_append, List.mem_append, not_or, not_or] at hs
    rw [Spelling.text, lower_append_gap _ isGap, hasWord_append_gap isGap]
    simp [Spelling.header, ih hs.2.2]

end TypeHeader

/-! ## Lines that open with `enum` -/

theorem head_lower {t : Text} (h : ∀ c ∈ t.head?, isBlank c = false) : ∀ c ∈ (lower t).head?, isBlank c = false := by
  have hstart : trimStart t = t := trimStart_eq_iff.2 ⟨[], rfl, by simp, h⟩
  have hlower := trimStart_lower t
  rw [hstart] at hlower
  rw [← hlower]
  exact head_dropWhile isBlank (lower t)

theorem takeWhile_isWord_append_gap {word gap : Text} (hword : ∀ c ∈ word, isWord c = true) (hgap : IsGap gap)
    (t : Text) : (word ++ (gap ++ t)).takeWhile isWord = word := by
  rw [takeWhile_append_of_stop fun c hc => isWord_of_isBlank (hgap.head t c hc), List.takeWhile_eq_self_iff.2 hword]

/-- A text that starts with a word does not start with a blank. -/
theorem head_of_takeWhile_isWord {t word : Text} (h : t.takeWhile isWord = word) (hne : word ≠ []) :
    ∀ c ∈ t.head?, isBlank c = false := by
  intro c hc
  cases t with
  | nil => cases hc
  | cons d t =>
    cases hc
    cases hd : isWord c with
    | true => exact isBlank_of_isWord hd
    | false =>
      rw [List.takeWhile_cons_of_neg (by simp [hd])] at h
      exact absurd h.symm hne

theorem startsWithEnum_iff {t : Text} : startsWithEnum t = true ↔ t.takeWhile isWord = "enum".toList := by
  have hword : ∀ c ∈ "enum".toList, isWord c = true := TypeKeyword.isWord_text .enumWord
  unfold startsWithEnum
  constructor
  · intro h
    split at h
    · rename_i hafter
      rw [after?_eq_some_iff.1 hafter]
      decide
    · rename_i c rest hafter
      rw [after?_eq_some_iff.1 hafter, takeWhile_append_of_stop (by rintro d ⟨⟩; simpa using h),
        List.takeWhile_eq_self_iff.2 hword]
    · cases h
  · intro h
    have hsplit : "enum".toList ++ t.dropWhile isWord = t := by
      rw [← h]
      exact List.takeWhile_append_dropWhile
    rw [after?_eq_some_iff.2 hsplit.symm]
    have hends := head_dropWhile isWord t
    cases hdrop : t.dropWhile isWord with
    | nil => rfl
    | cons c rest => simp [hends c (by rw [hdrop]; rfl)]

/-- The access modifiers that may stand before `enum`. -/
def enumAccess : List Text :=
  ["global".toList, "public".toList, "private".toList]

theorem opensEnum_iff {line : Text} :
    opensEnum line = true ↔
      (lower (trim (Annotations.strip line))).takeWhile isWord = "enum".toList ∨
        ∃ access ∈ enumAccess, ∃ gap rest, IsGap gap ∧
          lower (trim (Annotations.strip line)) = access ++ (gap ++ rest) ∧
          rest.takeWhile isWord = "enum".toList := by
  unfold opensEnum
  generalize lower (trim (Annotations.strip line)) = t
  simp only [Bool.or_eq_true, startsWithEnum_iff, List.any_eq_true]
  refine or_congr_right (exists_congr fun access => and_congr_right fun _ => ?_)
  constructor
  · intro h
    split at h
    · rename_i c rest hafter
      rw [Bool.and_eq_true, startsWithEnum_iff] at h
      refine ⟨c :: rest.takeWhile isBlank, trimStart rest, ⟨List.cons_ne_nil _ _, ?_⟩, ?_, h.2⟩
      · exact List.forall_mem_cons.2 ⟨h.1, fun d hd => List.mem_takeWhile_imp hd⟩
      · rw [after?_eq_some_iff.1 hafter, List.cons_append]
        exact congrArg (access ++ c :: ·) List.takeWhile_append_dropWhile.symm
    · cases h
  · rintro ⟨gap, rest, ⟨hne, hblanks⟩, ht, hrest⟩
    obtain ⟨b, gap, rfl⟩ := List.exists_cons_of_ne_nil hne
    obtain ⟨hb, hgap⟩ := List.forall_mem_cons.1 hblanks
    have hhead := head_of_takeWhile_isWord hrest (by decide)
    have hstart : trimStart (gap ++ rest) = rest := trimStart_eq_iff.2 ⟨gap, rfl, hgap, hhead⟩
    rw [after?_eq_some_iff.2 ht, List.cons_append]
    simp only
    rw [Bool.and_eq_true, hstart, startsWithEnum_iff]
    exact ⟨hb, hrest⟩

namespace TypeHeader

theorem mem_modifiers_of_mem_enumAccess {access : Text} (h : access ∈ enumAccess) : access ∈ modifiers := by
  have hall : enumAccess.all (modifiers.contains ·) = true := by decide
  simpa using List.all_eq_true.1 hall access h

/-- The lowercase of a header starts with `enum` when nothing stands before that keyword. -/
theorem Spelling.takeWhile_lower_iff (p : Spelling) (hs : 'ſ' ∉ p.text) :
    (lower p.text).takeWhile isWord = "enum".toList ↔ p.header.keyword = .enumWord ∧ p.leading = [] := by
  cases p with
  | named keyword word gap name rest spells isGap hne hname hends =>
    rw [Spelling.text, List.mem_append, not_or] at hs
    rw [Spelling.text, lower_append_gap _ isGap, lower_of_keyword spells hs.1,
      takeWhile_isWord_append_gap keyword.isWord_text isGap]
    simp only [Spelling.header, Spelling.leading, and_true]
    cases keyword <;> decide
  | modified word gap spells isGap header =>
    obtain ⟨modifier, hmodifier, hfold⟩ := spells
    rw [Spelling.text, List.mem_append, not_or] at hs
    rw [Spelling.text, lower_append_gap _ isGap, lower_of_modifier hmodifier hfold hs.1,
      takeWhile_isWord_append_gap (isWord_of_mem_modifiers hmodifier) isGap]
    simp only [Spelling.leading, List.cons_ne_nil, and_false, iff_false]
    rintro rfl
    exact absurd hmodifier (by decide)

/-- A header without a long s opens with `enum` exactly when that is its keyword and nothing but one access
modifier stands before it. -/
theorem Spelling.opensEnum_iff {line : Text} (p : Spelling) (htext : p.text = trim (Annotations.strip line))
    (hs : 'ſ' ∉ p.text) :
    opensEnum line = true ↔
      p.header.keyword = .enumWord ∧
        (p.leading = [] ∨ ∃ word, p.leading = [word] ∧ ∃ access ∈ enumAccess, foldsTo access word = true) := by
  have hfirst := p.takeWhile_lower_iff hs
  rw [ApexOutline.opensEnum_iff, ← htext, hfirst, and_or_left]
  refine or_congr_right ?_
  cases p with
  | named keyword word gap name rest spells isGap hne hname hends =>
    rw [Spelling.text, List.mem_append, not_or] at hs
    simp only [Spelling.leading, List.nil_eq, List.cons_ne_nil, false_and, exists_false, and_false, iff_false]
    rintro ⟨access, haccess, gap', rest', hgap', heq, -⟩
    have htake := congrArg (List.takeWhile isWord) heq
    rw [Spelling.text, lower_append_gap _ isGap, lower_of_keyword spells hs.1,
      takeWhile_isWord_append_gap keyword.isWord_text isGap,
      takeWhile_isWord_append_gap (isWord_of_mem_modifiers (mem_modifiers_of_mem_enumAccess haccess)) hgap'] at htake
    rw [← htake] at haccess
    cases keyword <;> exact absurd haccess (by decide)
  | modified word gap spells isGap header =>
    obtain ⟨modifier, hmodifier, hfold⟩ := spells
    rw [Spelling.text, List.mem_append, List.mem_append, not_or, not_or] at hs
    have hheader := header.takeWhile_lower_iff hs.2.2
    have hlower : lower (Spelling.text (.modified word gap ⟨modifier, hmodifier, hfold⟩ isGap header)) =
        modifier ++ (gap ++ lower header.text) := by
      rw [Spelling.text, lower_append_gap _ isGap, lower_of_modifier hmodifier hfold hs.1]
    rw [hlower]
    simp only [Spelling.header, Spelling.leading]
    constructor
    · rintro ⟨access, haccess, gap', rest', hgap', heq, hrest⟩
      have hword := isWord_of_mem_modifiers (mem_modifiers_of_mem_enumAccess haccess)
      obtain ⟨rfl, -, rfl⟩ := append_gap_inj (fun c hc => isBlank_of_isWord (isWord_of_mem_modifiers hmodifier c hc))
        (fun c hc => isBlank_of_isWord (hword c hc)) isGap hgap' (head_lower header.head_text)
        (head_of_takeWhile_isWord hrest (by decide)) heq
      obtain ⟨hkeyword, hleading⟩ := hheader.1 hrest
      exact ⟨hkeyword, word, by rw [hleading], modifier, haccess, hfold⟩
    · rintro ⟨hkeyword, first, hleading, access, haccess, haccessFold⟩
      obtain ⟨rfl, hnil⟩ := List.cons.inj hleading
      refine ⟨access, haccess, gap, lower header.text, isGap, ?_, hheader.2 ⟨hkeyword, hnil⟩⟩
      rw [← lower_of_modifier hmodifier hfold hs.1,
        lower_of_modifier (mem_modifiers_of_mem_enumAccess haccess) haccessFold hs.1]

/-! ## Lines -/

/-- A header starts with a word character. -/
theorem Spelling.exists_text_eq_cons (p : Spelling) : ∃ c t, p.text = c :: t ∧ isWord c = true := by
  have hword {word : Text} (hne : word ≠ []) (hchars : ∀ c ∈ word, isWord c = true) (more : Text) :
      ∃ c t, word ++ more = c :: t ∧ isWord c = true := by
    obtain ⟨c, word, rfl⟩ := List.exists_cons_of_ne_nil hne
    exact ⟨c, word ++ more, rfl, hchars c List.mem_cons_self⟩
  cases p with
  | named keyword word gap name rest spells => exact hword (ne_nil_of_keyword spells) (isWord_of_keyword spells) _
  | modified word gap spells isGap header =>
    have hmodifier := isModifier_iff.2 spells
    exact hword (ne_nil_of_isModifier hmodifier) (isWord_of_isModifier hmodifier) _

/-- A line that is a header without a long s mentions its keyword, whatever annotations open it. -/
theorem Spelling.hasWord_lower_line {line : Text} (p : Spelling) (htext : p.text = trim (Annotations.strip line))
    (hs : 'ſ' ∉ p.text) : hasWord p.header.keyword.text (lower line) = true := by
  apply Annotations.hasWord_lower_of_strip
  · obtain ⟨before, after, hstrip, hbefore, -⟩ := exists_trim (Annotations.strip line)
    obtain ⟨d, t, hd, hword⟩ := p.exists_text_eq_cons
    rw [hstrip, ← htext, hd]
    intro c hc
    cases before with
    | nil =>
      cases hc
      exact .inl hword
    | cons b before =>
      cases hc
      exact .inr (isBarrier_of_isBlank (hbefore c List.mem_cons_self))
  · rw [← hasWord_lower_trim, ← htext]
    exact p.hasWord_lower hs

theorem exists_spelling_of_ofLine? {line : Text} {header : TypeHeader} (h : ofLine? line = some header) :
    ∃ p : Spelling, p.text = trim (Annotations.strip line) ∧ p.header = header := by
  refine exists_spelling (head_trim _) rfl ?_
  rw [words_trim]
  exact h

/-- The tests agree on every line without a long s. A line that is the header of a class or an interface
mentions one of the two keywords, and that of an interface mentions its own; what mentions an interface mentions
a class or an interface. A header that opens with `enum` has that keyword, and a header with that keyword opens
with it when at most one access modifier stands before it. -/
theorem recognisers_agree {line : Text} (hs : 'ſ' ∉ line) :
    (∀ header, ofLine? line = some header →
      (header.keyword = .classWord ∨ header.keyword = .interfaceWord → mentionsClassOrInterface line = true) ∧
      (header.keyword = .interfaceWord → mentionsInterface line = true)) ∧
    (mentionsInterface line = true → mentionsClassOrInterface line = true) ∧
    (∀ header, opensEnum line = true → ofLine? line = some header → header.keyword = .enumWord) ∧
    ∀ p : Spelling, p.text = trim (Annotations.strip line) → p.header.keyword = .enumWord →
      (p.leading = [] ∨ ∃ word, p.leading = [word] ∧ ∃ access ∈ enumAccess, foldsTo access word = true) →
      opensEnum line = true := by
  have hpart {p : Spelling} (htext : p.text = trim (Annotations.strip line)) : 'ſ' ∉ p.text := by
    obtain ⟨shed, hline, -⟩ := Annotations.sheds_strip line
    rw [htext, mem_trim_iff (by decide)]
    intro hmem
    exact hs (hline ▸ List.mem_append_right shed hmem)
  have hmention {header : TypeHeader} (h : ofLine? line = some header) :
      hasWord header.keyword.text (lower line) = true := by
    obtain ⟨p, htext, rfl⟩ := exists_spelling_of_ofLine? h
    exact p.hasWord_lower_line htext (hpart htext)
  refine ⟨?_, ?_, ?_, ?_⟩
  · intro header h
    have hword := hmention h
    unfold mentionsClassOrInterface mentionsInterface
    refine ⟨?_, ?_⟩
    · rintro (hkeyword | hkeyword) <;> rw [hkeyword] at hword
      · exact Bool.or_eq_true_iff.2 (.inl hword)
      · exact Bool.or_eq_true_iff.2 (.inr hword)
    · intro hkeyword
      rw [hkeyword] at hword
      exact hword
  · intro h
    rw [mentionsClassOrInterface, h, Bool.or_true]
  · intro header hopens h
    obtain ⟨p, htext, rfl⟩ := exists_spelling_of_ofLine? h
    exact ((p.opensEnum_iff htext (hpart htext)).1 hopens).1
  · intro p htext hkeyword hleading
    exact (p.opensEnum_iff htext (hpart htext)).2 ⟨hkeyword, hleading⟩

/-- An annotation ends right before the keyword of an interface that is written in capitals, and one before the
access modifier of an enum; the letter before the first annotation becomes two when it is lowercased. -/
theorem recognisers_agree_annotated :
    let line := "@\u0130sTest(x='class')INTERFACE Shape".toList
    let line' := "@Deprecated PRIVATE\tEnum Color".toList
    'ſ' ∉ line ∧ 'ſ' ∉ line' ∧ mentionsInterface line = true ∧ opensEnum line' = true := by
  intro line line'
  have hs : 'ſ' ∉ line := by decide
  have hs' : 'ſ' ∉ line' := by decide
  have hheader : ofLine? line = some ⟨.interfaceWord, "Shape".toList⟩ := by decide +kernel
  let p : Spelling := .modified "PRIVATE".toList "\t".toList ⟨"private".toList, by decide, by decide⟩ (by decide)
    (.named .enumWord "Enum".toList " ".toList "Color".toList [] (by decide) (by decide) (by decide)
      (List.all_eq_true.1 (by decide)) (by rintro c ⟨⟩))
  have htext : p.text = trim (Annotations.strip line') := by decide +kernel
  refine ⟨hs, hs', ((recognisers_agree hs).1 _ hheader).2 rfl, ?_⟩
  exact (recognisers_agree hs').2.2.2 p htext rfl
    (.inr ⟨"PRIVATE".toList, rfl, "private".toList, by decide, by decide⟩)

end TypeHeader

end ApexOutline
