import ApexOutline.Proofs.Opening
import ApexOutline.Proofs.TypeHeader
import Mathlib.Data.Bool.AllAny
/-!
# Text after a cut

A quote or two slashes end what a line can be recognised by: no keyword and no name of a type contains
them (`IsCut`). So a line that goes on after such a cut opens like the part before it
(`prefix_lower_iff_of_extends`, `opensAlike_of_extends`) and is the same type header
(`ofWords?_words_of_extends`), whatever follows the cut. What follows can still matter for a parenthesis, the
end of a parameter list and the word `testmethod`, which are looked for in the whole line
(`isImplicitlyPrivate_append_cut`). Blanks at the end of a line matter only when the line is a keyword and
nothing else (`opensAlike_append_blanks`).
-/

namespace ApexOutline

open Text

/-! ## Keywords

The texts are checked with `List.all`, since a bounded statement about characters may be decided by going
through all characters. -/

theorem isWord_static : ∀ c ∈ "static".toList, isWord c = true :=
  List.all_eq_true.1 (by decide)

theorem Scope.isWord_testWord : ∀ c ∈ testWord, isWord c = true :=
  List.all_eq_true.1 (by decide)

theorem Scope.isAscii_testWord : ∀ c ∈ testWord, isAscii c = true :=
  List.all_eq_true.1 (by decide)

theorem TypeKeyword.isWord_text (keyword : TypeKeyword) : ∀ c ∈ keyword.text, isWord c = true :=
  List.all_eq_true.1 (by cases keyword <;> decide)

theorem TypeHeader.isWord_of_mem_modifiers {word : Text} (h : word ∈ modifiers) :
    ∀ c ∈ word, isWord c = true := by
  have hall : modifiers.all (·.all isWord) = true := by decide
  exact List.all_eq_true.1 (List.all_eq_true.1 hall word h)

theorem Keyword.isWord_of_mem_words {category : Category} {word : Text} (h : word ∈ category.words) :
    ∀ c ∈ word, isWord c = true := by
  have hall : category.words.all (·.all isWord) = true := by
    cases category <;> decide
  exact List.all_eq_true.1 (List.all_eq_true.1 hall word h)

theorem Keyword.isWord_of_opensMember {word : Text}
    (h : word ∈ Category.modifier.words ++ Category.primitive.words) : ∀ c ∈ word, isWord c = true :=
  (List.mem_append.1 h).elim isWord_of_mem_words isWord_of_mem_words

/-! ## Cuts -/

/-- Characters that no word, keyword or blank contains, and that do not open an argument or parameter
list. -/
structure IsCut (cut : Text) : Prop where
  ne_nil : cut ≠ []
  isCaseless : ∀ c ∈ cut, IsCaseless c
  notBlank : ∀ c ∈ cut, isBlank c = false
  notWord : ∀ c ∈ cut, isWord c = false
  notBracket : ∀ c ∈ cut, c ≠ '(' ∧ c ≠ '<' ∧ c ≠ '>'

theorem isCut_quote : IsCut ['\''] where
  ne_nil := by decide
  isCaseless := List.all_iff_forall_prop.1 (by decide +kernel)
  notBlank := List.all_iff_forall_prop.1 (by decide)
  notWord := List.all_iff_forall_prop.1 (by decide)
  notBracket := List.all_iff_forall_prop.1 (by decide)

theorem isCut_slashes : IsCut "//".toList where
  ne_nil := by decide
  isCaseless := List.all_iff_forall_prop.1 (by decide +kernel)
  notBlank := List.all_iff_forall_prop.1 (by decide)
  notWord := List.all_iff_forall_prop.1 (by decide)
  notBracket := List.all_iff_forall_prop.1 (by decide)

/-- The text ends before the cut or goes on after it. -/
def Extends (cut s t : Text) : Prop :=
  t = s ∨ ∃ more, t = s ++ (cut ++ more)

variable {cut s t t' : Text}

theorem IsCut.not_infix (hcut : IsCut cut) {word : Text}
    (hword : ∀ c ∈ word, isWord c = true ∨ isBlank c = true) : ¬ cut <:+: word := by
  intro h
  obtain ⟨c, hc⟩ := List.exists_mem_of_ne_nil cut hcut.ne_nil
  rcases hword c (h.subset hc) with hw | hb
  · rw [hcut.notWord c hc] at hw
    cases hw
  · rw [hcut.notBlank c hc] at hb
    cases hb

/-- What a text opens with, up to a barrier, it opens with before the cut. -/
theorem prefix_lower_iff_of_extends (hcut : IsCut cut) {p : Text} {b : Char} (hb : IsBarrier b)
    (hbcut : b ∉ cut) (hp : ¬ cut <:+: p) (h : Extends cut s t) :
    p ++ [b] <+: lower t ↔ p ++ [b] <+: lower s := by
  rcases h with rfl | ⟨more, rfl⟩
  · exact Iff.rfl
  · exact prefix_lower_append_iff hcut.isCaseless hb hbcut hcut.ne_nil hp s more

theorem IsCut.blank_not_mem (hcut : IsCut cut) {b : Char} (hb : isBlank b = true) : b ∉ cut := by
  intro hmem
  rw [hcut.notBlank b hmem] at hb
  cases hb

/-! ## Type headers -/

theorem isWord_fold (c : Char) : isWord (fold c) = isWord c := by
  unfold fold
  split
  · rename_i hc
    rw [eq_of_beq hc]
    decide +kernel
  split
  · rename_i hc
    rw [eq_of_beq hc]
    decide +kernel
  · exact caseBlind_isWord c

theorem foldsTo_of_not_isWord {word t : Text} (hword : ∀ c ∈ word, isWord c = true) {c : Char}
    (hc : isWord c = false) (hmem : c ∈ t) : foldsTo word t = false := by
  unfold foldsTo
  rw [beq_eq_false_iff_ne]
  rintro rfl
  have hfold := hword (fold c) (List.mem_map_of_mem hmem)
  rw [isWord_fold, hc] at hfold
  cases hfold

namespace TypeHeader

theorem isModifier_of_not_isWord {word : Text} {c : Char} (hc : isWord c = false) (hmem : c ∈ word) :
    isModifier word = false := by
  unfold isModifier
  rw [List.any_eq_false]
  intro m hm
  rw [foldsTo_of_not_isWord (isWord_of_mem_modifiers hm) hc hmem]
  exact Bool.false_ne_true

theorem ofWord?_of_not_isWord {word : Text} {c : Char} (hc : isWord c = false) (hmem : c ∈ word) :
    TypeKeyword.ofWord? word = none := by
  unfold TypeKeyword.ofWord?
  rw [List.find?_eq_none]
  intro k _
  rw [foldsTo_of_not_isWord k.isWord_text hc hmem]
  exact Bool.false_ne_true

theorem ofWords?_of_length_le {ws : List Text} (h : (ws.dropWhile isModifier).length ≤ 1) :
    ofWords? ws = none := by
  unfold ofWords?
  split
  · rename_i heq
    rw [heq] at h
    simp at h
  · rfl

theorem ofWords?_of_not_isWord {ws rest : List Text} {word : Text} {c : Char} (hc : isWord c = false)
    (hmem : c ∈ word) (h : ws.dropWhile isModifier = word :: rest) : ofWords? ws = none := by
  unfold ofWords?
  rw [h]
  cases rest with
  | nil => rfl
  | cons next rest => simp [ofWord?_of_not_isWord hc hmem]

/-- A word that goes on after a character that no word contains counts as far as that character, and
nothing counts after it. -/
theorem ofWords?_append_cut {c : Char} (hc : isWord c = false) (ws : List Text) (g y : Text)
    (more : List Text) :
    ofWords? (ws ++ (g ++ c :: y) :: more) = ofWords? (ws ++ [g].filter (!·.isEmpty)) := by
  have hmem : c ∈ g ++ c :: y := List.mem_append_right g List.mem_cons_self
  cases hws : ws.dropWhile isModifier with
  | nil =>
    -- Only modifiers stand before the cut, and the word with the cut is no keyword.
    have hleft : (ws ++ (g ++ c :: y) :: more).dropWhile isModifier = (g ++ c :: y) :: more := by
      rw [List.dropWhile_append, hws, List.isEmpty_nil, if_pos rfl]
      exact List.dropWhile_cons_of_neg (by simp [isModifier_of_not_isWord hc hmem])
    rw [ofWords?_of_not_isWord hc hmem hleft, ofWords?_of_length_le]
    rw [List.dropWhile_append, hws, List.isEmpty_nil, if_pos rfl]
    exact ((List.dropWhile_sublist _).trans List.filter_sublist).length_le
  | cons word rest =>
    have hname : (g ++ c :: y).takeWhile isWord = g.takeWhile isWord :=
      takeWhile_append_of_stop (by rintro d ⟨⟩; exact hc) g
    unfold ofWords?
    rw [List.dropWhile_append, List.dropWhile_append, hws, List.isEmpty_cons,
      if_neg Bool.false_ne_true, if_neg Bool.false_ne_true]
    cases rest with
    | cons next rest => rfl
    | nil =>
      simp only [List.cons_append, List.nil_append, hname]
      cases g with
      | nil => cases TypeKeyword.ofWord? word <;> rfl
      | cons d g => rfl

theorem ofWords?_words_append {c : Char} (hc : isWord c = false) (hblank : isBlank c = false)
    (s t : Text) : ofWords? (words (s ++ c :: t)) = ofWords? (words s) := by
  obtain ⟨u, g, rfl, hg, hu⟩ : ∃ u g, s = u ++ g ∧ (∀ d ∈ g, isBlank d = false) ∧
      (u = [] ∨ ∃ v b, u = v ++ [b] ∧ isBlank b = true) := by
    refine ⟨s.rdropWhile (!isBlank ·), s.rtakeWhile (!isBlank ·),
      List.rdropWhile_append_rtakeWhile.symm, fun d hd => ?_, ?_⟩
    · simpa using List.mem_rtakeWhile_imp hd
    · rcases List.eq_nil_or_concat (s.rdropWhile (!isBlank ·)) with h | ⟨v, b, h⟩
      · exact .inl h
      · rw [List.concat_eq_append] at h
        refine .inr ⟨v, b, h, ?_⟩
        have hlast := List.rdropWhile_last_not (!isBlank ·) s (by rw [h]; simp)
        simpa [h] using hlast
  have hrun : words (g ++ c :: t) =
      (g ++ c :: t.takeWhile (!isBlank ·)) :: words (t.dropWhile (!isBlank ·)) := by
    cases g with
    | nil => exact words_cons hblank t
    | cons d g =>
      obtain ⟨hd, hg⟩ := List.forall_mem_cons.1 hg
      have htake : (g ++ c :: t).takeWhile (!isBlank ·) = g ++ c :: t.takeWhile (!isBlank ·) := by
        rw [List.takeWhile_append_of_pos (fun e he => by simp [hg e he]),
          List.takeWhile_cons_of_pos (by simp [hblank])]
      have hdrop : (g ++ c :: t).dropWhile (!isBlank ·) = t.dropWhile (!isBlank ·) := by
        rw [List.dropWhile_append_of_pos (fun e he => by simp [hg e he]),
          List.dropWhile_cons_of_pos (by simp [hblank])]
      rw [List.cons_append, words_cons hd, htake, hdrop]
      rfl
  have hself : words g = [g].filter (!·.isEmpty) := by
    rw [words_eq, List.splitOnP_eq_singleton hg]
  rcases hu with rfl | ⟨v, b, rfl, hb⟩
  · rw [List.nil_append, hrun, hself]
    exact ofWords?_append_cut hc [] g _ _
  · have hv (x : Text) : words (v ++ [b] ++ x) = words v ++ words x := by
      rw [List.append_assoc, List.singleton_append, words_append_blank hb]
    rw [List.append_assoc, hv, hv, hrun, hself]
    exact ofWords?_append_cut hc (words v) g _ _

end TypeHeader

/-- The header of a line stands before the cut. -/
theorem ofWords?_words_of_extends (hcut : IsCut cut) (h : Extends cut s t) :
    TypeHeader.ofWords? (words t) = TypeHeader.ofWords? (words s) := by
  rcases h with rfl | ⟨more, rfl⟩
  · rfl
  · obtain ⟨c, cut', rfl⟩ := List.exists_cons_of_ne_nil hcut.ne_nil
    exact TypeHeader.ofWords?_words_append (hcut.notWord c List.mem_cons_self)
      (hcut.notBlank c List.mem_cons_self) s (cut' ++ more)

/-! ## Openings -/

theorem opens_eq_of_extends (hcut : IsCut cut) {word : Text} (hword : ¬ cut <:+: word)
    (h : Extends cut s t) : Keyword.opens word (lower t) = Keyword.opens word (lower s) := by
  rw [Bool.eq_iff_iff, Keyword.opens_iff, Keyword.opens_iff]
  refine and_congr_right fun _ => exists_congr fun b => and_congr_right fun hb => ?_
  exact prefix_lower_iff_of_extends hcut (isBarrier_of_isBlank hb) (hcut.blank_not_mem hb) hword h

theorem opensBefore_eq_of_extends (hcut : IsCut cut) {word : Text} {symbol : Char}
    (hsymbol : IsBarrier symbol) (hsblank : isBlank symbol = false) (hscut : symbol ∉ cut)
    (hword : ∀ c ∈ word, isBlank c = false → c ∉ cut) (h : Extends cut s t) :
    opensBefore word symbol (lower t) = opensBefore word symbol (lower s) := by
  rw [Bool.eq_iff_iff, opensBefore_iff hsblank, opensBefore_iff hsblank]
  refine exists_congr fun gap => and_congr_right fun hgap => ?_
  refine prefix_lower_iff_of_extends hcut hsymbol hscut (fun hpart => ?_) h
  obtain ⟨c, hc⟩ := List.exists_mem_of_ne_nil cut hcut.ne_nil
  rcases List.mem_append.1 (hpart.subset hc) with hmem | hmem
  · exact hword c hmem (hcut.notBlank c hc) hc
  · exact hcut.blank_not_mem (hgap c hmem) hc

theorem opensMember_eq_of_extends (hcut : IsCut cut) (h : Extends cut s t) :
    Keyword.opensMember (lower t) = Keyword.opensMember (lower s) := by
  unfold Keyword.opensMember
  rw [Bool.eq_iff_iff, List.any_eq_true, List.any_eq_true]
  refine exists_congr fun word => and_congr_right fun hword => ?_
  rw [opens_eq_of_extends hcut (hcut.not_infix fun c hc => .inl (Keyword.isWord_of_opensMember hword c hc)) h]

theorem opensConstructor_eq_of_extends (hcut : IsCut cut) {name : Text}
    (hname : ∀ c ∈ name, isWord c = true) (h : Extends cut s t) :
    Line.opensConstructor name (lower t) = Line.opensConstructor name (lower s) := by
  rw [Line.opensConstructor_eq, Line.opensConstructor_eq]
  congr 1
  refine opensBefore_eq_of_extends hcut (by decide +kernel) (by decide)
    (fun hmem => (hcut.notBracket _ hmem).1 rfl) (fun c hmem _ hc => ?_) h
  rw [mem_lower_iff (hcut.isCaseless c hc)] at hmem
  have hword := hname c hmem
  rw [hcut.notWord c hc] at hword
  cases hword

theorem startsCollection_iff {t : Text} :
    Keyword.startsCollection (lower t) = true ↔
      ∃ word ∈ Keyword.Category.collection.words, ∃ gap u v, (∀ c ∈ gap, isBlank c) ∧
        lower u = word ++ gap ∧ t = u ++ '<' :: v := by
  unfold Keyword.startsCollection
  rw [List.any_eq_true]
  refine exists_congr fun word => and_congr_right fun _ => ?_
  rw [opensBefore_iff (by decide)]
  constructor
  · rintro ⟨gap, hgap, h⟩
    obtain ⟨u, v, ht, hu⟩ := (prefix_lower_iff (by decide +kernel)).1 h
    exact ⟨gap, u, v, hgap, hu, ht⟩
  · rintro ⟨gap, u, v, hgap, hu, ht⟩
    exact ⟨gap, hgap, (prefix_lower_iff (by decide +kernel)).2 ⟨u, v, ht, hu⟩⟩

theorem startsCollection_of_opensCollection (h : Keyword.opensCollection (lower t) = true) :
    Keyword.startsCollection (lower t) = true := by
  obtain ⟨word, hword, u, gap, x, r, hgap, hu, ht, -⟩ := Keyword.opensCollection_lower_iff.1 h
  exact startsCollection_iff.2 ⟨word, hword, gap, u, x ++ '>' :: r, hgap, hu, ht⟩

theorem startsCollection_append (h : Keyword.startsCollection (lower s) = true) (more : Text) :
    Keyword.startsCollection (lower (s ++ more)) = true := by
  obtain ⟨word, hword, gap, u, v, hgap, hu, rfl⟩ := startsCollection_iff.1 h
  exact startsCollection_iff.2 ⟨word, hword, gap, u, v ++ more, hgap, hu, by simp⟩

/-- The parameters of a collection may end after the cut, but they open before it. -/
theorem opensCollection_append_cut (hcut : IsCut cut) {more : Text} (hn : '\n' ∉ s ++ (cut ++ more)) :
    Keyword.opensCollection (lower (s ++ (cut ++ more))) =
      (Keyword.opensCollection (lower s) ||
        (Keyword.startsCollection (lower s) && more.contains '>')) := by
  rw [Bool.eq_iff_iff, Bool.or_eq_true, Bool.and_eq_true, List.contains_iff_mem]
  constructor
  · intro h
    obtain ⟨word, hword, u, gap, x, r, hgap, hu, ht, hne, hnx⟩ := Keyword.opensCollection_lower_iff.1 h
    rcases append_cut_eq_append_cons (fun hmem => (hcut.notBracket _ hmem).2.1 rfl) hcut.ne_nil ht with
      ⟨w, rfl, -⟩ | ⟨v, rfl, hrest⟩
    · refine absurd (infix_lower hcut.isCaseless (List.infix_append' s cut w)) ?_
      refine hcut.not_infix fun c hc => ?_
      rw [hu, List.mem_append] at hc
      exact hc.imp (Keyword.isWord_of_mem_words hword c) (hgap c)
    · rcases append_cut_eq_append_cons (fun hmem => (hcut.notBracket _ hmem).2.2 rfl) hcut.ne_nil
        hrest.symm with ⟨w, -, rfl⟩ | ⟨w, rfl, -⟩
      · exact .inr ⟨startsCollection_iff.2 ⟨word, hword, gap, u, v, hgap, hu, rfl⟩, by simp⟩
      · exact .inl (Keyword.opensCollection_lower_iff.2
          ⟨word, hword, u, gap, x, w, hgap, hu, rfl, hne, hnx⟩)
  · rintro (h | ⟨h, hmem⟩)
    · obtain ⟨word, hword, u, gap, x, r, hgap, hu, rfl, hne, hnx⟩ := Keyword.opensCollection_lower_iff.1 h
      exact Keyword.opensCollection_lower_iff.2
        ⟨word, hword, u, gap, x, r ++ (cut ++ more), hgap, hu, by simp, hne, hnx⟩
    · obtain ⟨word, hword, gap, u, v, hgap, hu, rfl⟩ := startsCollection_iff.1 h
      obtain ⟨m, m', rfl⟩ := List.append_of_mem hmem
      refine Keyword.opensCollection_lower_iff.2
        ⟨word, hword, u, gap, v ++ (cut ++ m), m', hgap, hu, by simp, ?_, fun hmem' => hn ?_⟩
      · simp [hcut.ne_nil]
      · simp only [List.mem_append, List.mem_cons] at hmem' ⊢
        tauto

theorem hasWord_lower_append_cut (hcut : IsCut cut) {w : Text} (hw : ∀ c ∈ w, isAscii c) (s more : Text) :
    hasWord w (lower (s ++ (cut ++ more))) = (hasWord w (lower s) || hasWord w (lower more)) := by
  obtain ⟨c, cut', rfl⟩ := List.exists_cons_of_ne_nil hcut.ne_nil
  have hrest (t : Text) (ht : ∀ c ∈ t, IsCaseless c ∧ isWord c = false) :
      hasWord w (lower (t ++ more)) = hasWord w (lower more) := by
    induction t with
    | nil => rfl
    | cons d t ih =>
      obtain ⟨hd, ht⟩ := List.forall_mem_cons.1 ht
      have hnil := hasWord_lower_append_cons hw hd.1 hd.2 [] (t ++ more)
      rw [ih ht, show lower [] = [] from rfl, hasWord_nil, Bool.false_or] at hnil
      exact hnil
  rw [List.cons_append, hasWord_lower_append_cons hw (hcut.isCaseless c List.mem_cons_self)
    (hcut.notWord c List.mem_cons_self), hrest]
  intro d hd
  have hmem := List.mem_cons_of_mem c hd
  exact ⟨hcut.isCaseless d hmem, hcut.notWord d hmem⟩

namespace Line

variable {scopes : ScopeList} {context : Option Context}

theorem IsLead.not_infix (hcut : IsCut cut) (hscopes : ∀ k ∈ scopes.keywords, ¬ cut <:+: lower k)
    {word : Text} (h : IsLead scopes word) : ¬ cut <:+: word := by
  cases h with
  | listed hk => exact hscopes _ hk
  | static => exact hcut.not_infix fun c hc => .inl (isWord_static c hc)
  | type keyword => exact hcut.not_infix fun c hc => .inl (keyword.isWord_text c hc)
  | staticTest _ _ _ hgap =>
    refine hcut.not_infix fun c hc => ?_
    rcases List.mem_append.1 hc with hc | hc
    · exact (List.mem_append.1 hc).imp (isWord_static c) (hgap c)
    · exact .inl (Scope.isWord_testWord c hc)

theorem sameLeads_of_extends (hcut : IsCut cut) (hscopes : ∀ k ∈ scopes.keywords, ¬ cut <:+: lower k)
    (h : Extends cut s t) : SameLeads scopes (lower s) (lower t) := fun _ _ hword hb =>
  prefix_lower_iff_of_extends hcut (isBarrier_of_isBlank hb) (hcut.blank_not_mem hb)
    (hword.not_infix hcut hscopes) h

/-- Two texts that agree up to a cut open alike if they have the same shape. -/
theorem opensAlike_of_extends (hcut : IsCut cut) (hscopes : ∀ k ∈ scopes.keywords, ¬ cut <:+: lower k)
    (hcontext : ∀ c ∈ context, ∀ d ∈ c.simpleName, isWord d = true) (h : Extends cut s t)
    (h' : Extends cut s t') (shape : Scope.isByShape scopes (lower s) = true →
      Scope.isImplicitlyPrivate (lower t') = Scope.isImplicitlyPrivate (lower t)) :
    OpensAlike scopes context (lower t) (lower t') where
  leads word b hword hb :=
    (sameLeads_of_extends hcut hscopes h' word b hword hb).trans
      (sameLeads_of_extends hcut hscopes h word b hword hb).symm
  construct c hc := by
    rw [opensConstructor_eq_of_extends hcut (hcontext c hc) h,
      opensConstructor_eq_of_extends hcut (hcontext c hc) h']
  shape hshape := shape ((sameLeads_of_extends hcut hscopes h).isByShape_eq.symm.trans hshape)

/-- The shape of a line with a cut: what opens it stands before the cut, and the rest may stand after it. -/
theorem isImplicitlyPrivate_append_cut (hcut : IsCut cut) {more : Text} (hn : '\n' ∉ s ++ (cut ++ more)) :
    Scope.isImplicitlyPrivate (lower (s ++ (cut ++ more))) =
      ((Keyword.opens "static".toList (lower s) &&
          !(hasWord Scope.testWord (lower s) || hasWord Scope.testWord (lower more))) ||
        ((Keyword.opensMember (lower s) || (Keyword.opensCollection (lower s) ||
            (Keyword.startsCollection (lower s) && more.contains '>'))) &&
          (s.contains '(' || more.contains '('))) := by
  have hextends : Extends cut s (s ++ (cut ++ more)) := .inr ⟨more, rfl⟩
  have hparen : (lower (s ++ (cut ++ more))).contains '(' = (s.contains '(' || more.contains '(') := by
    have hfree : '(' ∉ cut := fun hmem => (hcut.notBracket _ hmem).1 rfl
    rw [Bool.eq_iff_iff, Bool.or_eq_true]
    simp only [List.contains_iff_mem, mem_lower_iff (show IsCaseless '(' by decide +kernel),
      List.mem_append, hfree, false_or]
  unfold Scope.isImplicitlyPrivate
  rw [opens_eq_of_extends hcut (hcut.not_infix fun c hc => .inl (isWord_static c hc)) hextends,
    hasWord_lower_append_cut hcut Scope.isAscii_testWord, opensMember_eq_of_extends hcut hextends,
    opensCollection_append_cut hcut hn, hparen]

/-! ## Blanks at the end -/

/-- Whether a normalized line is a keyword and nothing else, so that a blank after it would make it open
a declaration. -/
def isLone (scopes : ScopeList) (normal : Text) : Bool :=
  (scopes.keywords.map lower ++
      ["static".toList, "class".toList, "interface".toList, "enum".toList]).any (trimEnd · == normal) ||
    ((scopes.keywords.map lower).contains Scope.testWord &&
      words normal == ["static".toList, Scope.testWord])

theorem isLone_of_isLead {word : Text} (h : IsLead scopes word) : isLone scopes (trimEnd word) = true := by
  have hany {words : List Text} (hmem : word ∈ words) : words.any (trimEnd · == trimEnd word) = true :=
    List.any_eq_true.2 ⟨word, hmem, by simp⟩
  unfold isLone
  rw [Bool.or_eq_true]
  cases h with
  | listed hk => exact .inl (hany (List.mem_append_left _ (List.mem_map_of_mem hk)))
  | static =>
    refine .inl (hany (List.mem_append_right _ ?_))
    decide
  | type keyword =>
    refine .inl (hany (List.mem_append_right _ ?_))
    cases keyword <;> decide
  | @staticTest keyword gap hk htest hne hgap =>
    right
    have hmem : Scope.testWord ∈ scopes.keywords.map lower := htest ▸ List.mem_map_of_mem hk
    obtain ⟨after, hafter, hblank⟩ := exists_trimEnd ("static".toList ++ gap ++ Scope.testWord)
    have hwords : words (trimEnd ("static".toList ++ gap ++ Scope.testWord)) =
        words ("static".toList ++ gap ++ Scope.testWord) := by
      conv_rhs => rw [hafter, words_append_blanks _ hblank]
    obtain ⟨b, gap, rfl⟩ := List.exists_cons_of_ne_nil hne
    obtain ⟨hb, hgap⟩ := List.forall_mem_cons.1 hgap
    rw [Bool.and_eq_true, List.contains_iff_mem, hwords, List.append_assoc, List.cons_append,
      words_append_blank hb, words_blanks_append hgap]
    exact ⟨hmem, by decide⟩

/-- What stands before blanks at the end, or reaches into them. -/
theorem prefix_append_blanks {p n w : Text} {b : Char} (h : p ++ [b] <+: n ++ w) :
    p ++ [b] <+: n ∨ b ∈ w ∧ ∃ v, p = n ++ v ∧ ∀ c ∈ v, c ∈ w := by
  obtain ⟨r, hr⟩ := h
  rcases List.append_eq_append_iff.1 hr with ⟨m, rfl, -⟩ | ⟨m, hm, rfl⟩
  · exact .inl (List.prefix_append _ _)
  · rcases List.eq_nil_or_concat m with rfl | ⟨v, d, rfl⟩
    · rw [List.append_nil] at hm
      exact .inl (hm ▸ List.prefix_refl _)
    · rw [List.concat_eq_append, ← List.append_assoc] at hm
      obtain ⟨rfl, hbd⟩ := List.append_inj' hm rfl
      rw [List.singleton_inj] at hbd
      refine .inr ⟨by simp [hbd], v, rfl, fun c hc => by simp [hc]⟩

theorem opensBefore_append_blanks {word n w : Text} {symbol : Char} (hs : isBlank symbol = false)
    (hw : ∀ c ∈ w, isBlank c) : opensBefore word symbol (n ++ w) = opensBefore word symbol n := by
  rw [Bool.eq_iff_iff, opensBefore_iff hs, opensBefore_iff hs]
  refine exists_congr fun gap => and_congr_right fun _ => ⟨fun h => ?_, fun h => ?_⟩
  · rcases prefix_append_blanks h with h | ⟨hmem, -⟩
    · exact h
    · rw [hw symbol hmem] at hs
      cases hs
  · exact h.trans (List.prefix_append n w)

theorem startsCollection_append_blanks (s : Text) {w : Text} (hw : ∀ c ∈ w, isBlank c) :
    Keyword.startsCollection (lower (s ++ w)) = Keyword.startsCollection (lower s) := by
  unfold Keyword.startsCollection
  rw [lower_append_blanks s hw, Bool.eq_iff_iff, List.any_eq_true, List.any_eq_true]
  refine exists_congr fun word => and_congr_right fun _ => ?_
  rw [opensBefore_append_blanks (by decide) hw]

theorem opensCollection_append_blanks (s : Text) {w : Text} (hw : ∀ c ∈ w, isBlank c) :
    Keyword.opensCollection (lower (s ++ w)) = Keyword.opensCollection (lower s) := by
  rw [Bool.eq_iff_iff, Keyword.opensCollection_lower_iff, Keyword.opensCollection_lower_iff]
  constructor
  · rintro ⟨word, hword, u, gap, x, r, hgap, hu, ht, hne, hn⟩
    have ht' : s ++ w = (u ++ '<' :: x) ++ '>' :: r := by rw [ht]; simp
    have hgreater : '>' ∉ w := fun hmem => absurd (hw '>' hmem) (by decide)
    rcases List.append_eq_append_iff.1 ht' with ⟨m, -, rfl⟩ | ⟨m, rfl, hm⟩
    · exact absurd (List.mem_append_right m List.mem_cons_self) hgreater
    · cases m with
      | nil =>
        rw [List.nil_append] at hm
        exact absurd (hm ▸ List.mem_cons_self) hgreater
      | cons c m =>
        obtain ⟨rfl, -⟩ := List.cons.inj hm
        exact ⟨word, hword, u, gap, x, m, hgap, hu, by simp, hne, hn⟩
  · rintro ⟨word, hword, u, gap, x, r, hgap, hu, rfl, hne, hn⟩
    exact ⟨word, hword, u, gap, x, r ++ w, hgap, hu, by simp, hne, hn⟩

theorem hasWord_append_blanks (v n : Text) {w : Text} (hw : ∀ c ∈ w, isBlank c) :
    hasWord v (n ++ w) = hasWord v n := by
  induction w generalizing n with
  | nil => rw [List.append_nil]
  | cons b w ih =>
    obtain ⟨hb, hw⟩ := List.forall_mem_cons.1 hw
    have hrest := ih [] hw
    rw [List.nil_append, hasWord_nil] at hrest
    rw [hasWord_append (isWord_of_isBlank hb), hrest, Bool.or_false]

/-- A line that opens a member with blanks after it does so with one blank. -/
theorem opensMember_append_blanks {n w : Text} (hw : ∀ c ∈ w, isBlank c)
    (h : Keyword.opensMember (n ++ w) = true) : Keyword.opensMember (n ++ [' ']) = true := by
  unfold Keyword.opensMember at *
  obtain ⟨word, hword, hopens⟩ := List.any_eq_true.1 h
  obtain ⟨hne, b, hb, hprefix⟩ := Keyword.opens_iff.1 hopens
  refine List.any_eq_true.2 ⟨word, hword, Keyword.opens_iff.2 ⟨hne, ?_⟩⟩
  rcases prefix_append_blanks hprefix with hprefix | ⟨-, v, rfl, hv⟩
  · exact ⟨b, hb, hprefix.trans (List.prefix_append n [' '])⟩
  · cases v with
    | nil => exact ⟨' ', by decide, by simp⟩
    | cons c v =>
      have hnot := isWord_of_isBlank (hw c (hv c List.mem_cons_self))
      rw [Keyword.isWord_of_opensMember hword c (List.mem_append_right n List.mem_cons_self)] at hnot
      cases hnot

theorem isImplicitlyPrivate_append_blanks (s : Text) {w : Text} (hw : ∀ c ∈ w, isBlank c)
    (hstatic : Keyword.opens "static".toList (lower (s ++ w)) = Keyword.opens "static".toList (lower s)) :
    Scope.isImplicitlyPrivate (lower (s ++ w)) = Scope.isImplicitlyPrivate (lower s) := by
  have hparen : '(' ∉ w := fun hmem => absurd (hw '(' hmem) (by decide)
  have hmember (hmem : '(' ∈ lower s) :
      Keyword.opensMember (lower s ++ w) = Keyword.opensMember (lower s) := by
    unfold Keyword.opensMember
    rw [Bool.eq_iff_iff, List.any_eq_true, List.any_eq_true]
    refine exists_congr fun word => and_congr_right fun hword => ?_
    rw [Keyword.opens_iff, Keyword.opens_iff]
    refine and_congr_right fun _ => exists_congr fun b => and_congr_right fun _ => ⟨fun h => ?_, fun h => ?_⟩
    · rcases prefix_append_blanks h with h | ⟨-, v, rfl, -⟩
      · exact h
      · exact absurd (Keyword.isWord_of_opensMember hword '(' (List.mem_append_left v hmem)) (by decide)
    · exact h.trans (List.prefix_append _ _)
  have hcontains : (lower s ++ w).contains '(' = (lower s).contains '(' := by
    rw [Bool.eq_iff_iff, List.contains_iff_mem, List.contains_iff_mem, List.mem_append, or_iff_left hparen]
  unfold Scope.isImplicitlyPrivate
  rw [hstatic, opensCollection_append_blanks s hw, lower_append_blanks s hw, hasWord_append_blanks _ _ hw,
    hcontains]
  cases hmem : (lower s).contains '(' with
  | false => rw [Bool.and_false, Bool.and_false]
  | true => rw [hmember (List.contains_iff_mem.1 hmem)]

/-- Blanks after a line that is no lone keyword do not change how it opens. -/
theorem opensAlike_append_blanks {w : Text} (hw : ∀ c ∈ w, isBlank c) (hs : trimEnd s = s)
    (hlone : isLone scopes (lower s) = false) : OpensAlike scopes context (lower s) (lower (s ++ w)) := by
  have hleads : SameLeads scopes (lower s) (lower (s ++ w)) := by
    intro word b hword hb
    rw [lower_append_blanks s hw]
    refine ⟨fun h => ?_, fun h => h.trans (List.prefix_append _ _)⟩
    rcases prefix_append_blanks h with h | ⟨-, v, rfl, hv⟩
    · exact h
    · have hlead := isLone_of_isLead hword
      rw [trimEnd_append_blanks _ fun c hc => hw c (hv c hc), trimEnd_lower hs, hlone] at hlead
      cases hlead
  refine ⟨hleads, fun c _ => ?_, fun _ => isImplicitlyPrivate_append_blanks s hw (hleads.opens_eq .static)⟩
  rw [opensConstructor_eq, opensConstructor_eq, lower_append_blanks s hw,
    opensBefore_append_blanks (by decide) hw]

end Line

end ApexOutline
