import ApexOutline.Context
import ApexOutline.Proofs.Text.Lowercase
import Mathlib.Data.List.Find
/-!
# How a line opens

The scope of a line and whether it is kept are read off the start of the normalized line: each test asks
for a word, and then for a blank, a parenthesis or an angle bracket (`opens_iff`, `opensStaticTest_iff`,
`opensBefore_iff`). Two lines for which these few tests give the same answers have the same scope and are
kept alike (`OpensAlike`, `OpensAlike.scope_eq`, `OpensAlike.isKept_eq`). A parenthesis only matters to some
lines (`heedsParen`).
-/

namespace ApexOutline

open Text

/-! ## Words at the start -/

namespace Text

theorem after?_eq_some_iff {word t rest : Text} : after? word t = some rest ↔ t = word ++ rest := by
  unfold after?
  constructor
  · intro h
    split at h
    · rename_i hprefix
      obtain ⟨r, rfl⟩ := List.isPrefixOf_iff_prefix.1 hprefix
      rw [List.drop_left, Option.some.injEq] at h
      rw [h]
    · cases h
  · rintro rfl
    rw [if_pos (List.isPrefixOf_iff_prefix.2 (List.prefix_append word rest)), List.drop_left]

theorem trimStart_eq_cons_iff {t r : Text} {c : Char} (hc : isBlank c = false) :
    trimStart t = c :: r ↔ ∃ gap, (∀ d ∈ gap, isBlank d) ∧ t = gap ++ c :: r := by
  constructor
  · intro h
    refine ⟨t.takeWhile isBlank, fun d hd => List.mem_takeWhile_imp hd, ?_⟩
    rw [← h]
    exact List.takeWhile_append_dropWhile.symm
  · rintro ⟨gap, hgap, rfl⟩
    rw [trimStart_append_of_eq_nil (trimStart_eq_nil_iff.2 hgap)]
    exact List.dropWhile_cons_of_neg (by simp [hc])

/-- Whether a text starts with a word and, after blanks, with a symbol. -/
def opensBefore (word : Text) (symbol : Char) (t : Text) : Bool :=
  match after? word t with
  | some rest => [symbol].isPrefixOf (trimStart rest)
  | none => false

theorem opensBefore_iff {word t : Text} {symbol : Char} (hs : isBlank symbol = false) :
    opensBefore word symbol t = true ↔
      ∃ gap, (∀ d ∈ gap, isBlank d) ∧ word ++ gap ++ [symbol] <+: t := by
  unfold opensBefore
  constructor
  · intro h
    split at h
    · rename_i rest hrest
      obtain ⟨r, hr⟩ := List.isPrefixOf_iff_prefix.1 h
      obtain ⟨gap, hgap, rfl⟩ := (trimStart_eq_cons_iff hs).1 hr.symm
      refine ⟨gap, hgap, r, ?_⟩
      rw [after?_eq_some_iff.1 hrest]
      simp
    · cases h
  · rintro ⟨gap, hgap, r, rfl⟩
    have hafter : after? word (word ++ gap ++ [symbol] ++ r) = some (gap ++ symbol :: r) :=
      after?_eq_some_iff.2 (by simp)
    rw [hafter]
    simp only
    rw [(trimStart_eq_cons_iff hs).2 ⟨gap, hgap, rfl⟩]
    simp

end Text

namespace Keyword

theorem opens_iff {word t : Text} :
    opens word t = true ↔ word ≠ [] ∧ ∃ b, isBlank b = true ∧ word ++ [b] <+: t := by
  unfold opens
  rw [Bool.and_eq_true, Bool.not_eq_true', List.isEmpty_eq_false_iff]
  refine and_congr_right fun _ => ?_
  constructor
  · intro h
    split at h
    · rename_i c r hr
      exact ⟨c, h, r, by rw [after?_eq_some_iff.1 hr]; simp⟩
    · cases h
  · rintro ⟨b, hb, r, rfl⟩
    have hafter : after? word (word ++ [b] ++ r) = some (b :: r) := after?_eq_some_iff.2 (by simp)
    rw [hafter]
    exact hb

/-- Whether a line starts with a collection type and the bracket that opens its parameters. -/
def startsCollection (line : Text) : Bool :=
  Category.collection.words.any (opensBefore · '<' line)

theorem startsWithParameters_iff {t : Text} :
    startsWithParameters t = true ↔ ∃ u r, t = '<' :: (u ++ '>' :: r) ∧ u ≠ [] ∧ '\n' ∉ u := by
  unfold startsWithParameters
  constructor
  · intro h
    split at h
    · rename_i r
      rw [List.contains_iff_mem] at h
      obtain ⟨x, v, hxv⟩ : ∃ x v, r.takeWhile (· != '\n') = x :: v := by
        cases hr : r.takeWhile (· != '\n') with
        | nil =>
          rw [hr] at h
          cases h
        | cons x v => exact ⟨x, v, rfl⟩
      rw [hxv, List.drop_succ_cons, List.drop_zero] at h
      obtain ⟨u, w, rfl⟩ := List.append_of_mem h
      refine ⟨x :: u, w ++ r.dropWhile (· != '\n'), ?_, List.cons_ne_nil x u, fun hn => ?_⟩
      · conv_lhs => rw [← List.takeWhile_append_dropWhile (p := (· != '\n')) (l := r), hxv]
        simp
      · have hmem : '\n' ∈ r.takeWhile (· != '\n') := by
          rw [hxv]
          exact List.mem_append_left _ hn
        simpa using List.mem_takeWhile_imp hmem
    · cases h
  · rintro ⟨u, r, rfl, hne, hn⟩
    obtain ⟨x, u, rfl⟩ := List.exists_cons_of_ne_nil hne
    have htake : (x :: u ++ '>' :: r).takeWhile (· != '\n') = x :: u ++ '>' :: r.takeWhile (· != '\n') := by
      rw [List.takeWhile_append_of_pos fun c hc => by
        simpa using fun h : c = '\n' => hn (h ▸ hc)]
      rfl
    simp only [List.contains_iff_mem]
    rw [htake]
    simp

/-- A collection with its parameters, in the text before it is lowercased. -/
theorem opensCollection_lower_iff {t : Text} :
    opensCollection (lower t) = true ↔
      ∃ word ∈ Category.collection.words, ∃ s gap u r, (∀ c ∈ gap, isBlank c) ∧ lower s = word ++ gap ∧
        t = s ++ '<' :: (u ++ '>' :: r) ∧ u ≠ [] ∧ '\n' ∉ u := by
  have hless : IsBarrier '<' := by decide +kernel
  have hgreater : IsBarrier '>' := by decide +kernel
  unfold opensCollection
  rw [List.any_eq_true]
  refine exists_congr fun word => and_congr_right fun _ => ?_
  constructor
  · intro h
    split at h
    · rename_i rest hrest
      obtain ⟨v, r, hv, hne, hn⟩ := startsWithParameters_iff.1 h
      obtain ⟨gap, hgap, rfl⟩ := (trimStart_eq_cons_iff (by decide)).1 hv
      rw [after?_eq_some_iff, ← List.append_assoc] at hrest
      obtain ⟨s, q, rfl, hs, hq⟩ := lower_eq_append_cons hless hrest
      obtain ⟨u, q, rfl, rfl, -⟩ := lower_eq_append_cons hgreater hq
      refine ⟨s, gap, u, q, hgap, hs, rfl, ?_, fun hmem => hn ?_⟩
      · rintro rfl
        exact hne rfl
      · exact (mem_lower_iff (by decide +kernel)).2 hmem
    · cases h
  · rintro ⟨s, gap, u, r, hgap, hs, rfl, hne, hn⟩
    have hafter : after? word (lower (s ++ '<' :: (u ++ '>' :: r))) =
        some (gap ++ '<' :: (lower u ++ '>' :: lower r)) := by
      rw [after?_eq_some_iff, lower_append_barrier hless, lower_append_barrier hgreater, hs]
      simp
    rw [hafter]
    simp only
    rw [(trimStart_eq_cons_iff (by decide)).2 ⟨gap, hgap, rfl⟩]
    refine startsWithParameters_iff.2 ⟨lower u, lower r, rfl, ?_, fun hmem => hn ?_⟩
    · exact fun hnil => hne (lower_eq_nil_iff.1 hnil)
    · exact (mem_lower_iff (by decide +kernel)).1 hmem

end Keyword

namespace Scope

theorem opensStaticTest_iff {t : Text} :
    opensStaticTest t = true ↔
      ∃ gap b, gap ≠ [] ∧ (∀ c ∈ gap, isBlank c) ∧ isBlank b = true ∧
        "static".toList ++ gap ++ testWord ++ [b] <+: t := by
  unfold opensStaticTest
  rw [Bool.and_eq_true, Keyword.opens_iff, Keyword.opens_iff]
  have htest : testWord = 't' :: "estmethod".toList := rfl
  constructor
  · rintro ⟨⟨-, b, hb, r, rfl⟩, -, b', hb', q, hq⟩
    have hdrop : ("static".toList ++ [b] ++ r).drop 6 = b :: r := by simp
    rw [hdrop, htest, List.cons_append, List.cons_append] at hq
    obtain ⟨gap, hgap, hr⟩ := (trimStart_eq_cons_iff (by decide)).1 hq.symm
    refine ⟨gap, b', ?_, hgap, hb', q, ?_⟩
    · rintro rfl
      obtain ⟨rfl, -⟩ := List.cons.inj hr
      exact absurd hb (by decide)
    · rw [List.append_assoc "static".toList [b], List.singleton_append, hr, htest]
      simp only [List.append_assoc, List.cons_append]
  · rintro ⟨gap, b, hne, hgap, hb, r, rfl⟩
    obtain ⟨d, gap, rfl⟩ := List.exists_cons_of_ne_nil hne
    have hstatic : "static".toList ++ [d] <+: "static".toList ++ d :: gap ++ testWord ++ [b] ++ r :=
      ⟨gap ++ testWord ++ [b] ++ r, by simp⟩
    refine ⟨⟨by decide, d, hgap d List.mem_cons_self, hstatic⟩, by decide, b, hb, r, ?_⟩
    have hdrop : ("static".toList ++ d :: gap ++ testWord ++ [b] ++ r).drop 6 =
        d :: gap ++ 't' :: ("estmethod".toList ++ b :: r) := by
      rw [htest]
      simp
    rw [hdrop, (trimStart_eq_cons_iff (by decide)).2 ⟨d :: gap, hgap, rfl⟩, htest]
    simp

/-- Whether the scope of a normalized line depends on its shape: `private` is listed and no listed keyword
opens the line. -/
def isByShape (scopes : ScopeList) (t : Text) : Bool :=
  scopes.contains privateWord && !scopes.keywords.any (isExplicit t)

end Scope

namespace Line

theorem opensBareType_iff {t : Text} :
    opensBareType t = true ↔ ∃ keyword : TypeKeyword, keyword.text ++ [' '] <+: t := by
  unfold opensBareType
  simp only [List.any_cons, List.any_nil, Bool.or_false, Bool.or_eq_true, List.isPrefixOf_iff_prefix]
  constructor
  · rintro (h | h | h)
    · exact ⟨.enumWord, h⟩
    · exact ⟨.classWord, h⟩
    · exact ⟨.interfaceWord, h⟩
  · rintro ⟨_ | _ | _, h⟩
    · exact .inr (.inl h)
    · exact .inr (.inr h)
    · exact .inl h

theorem opensConstructor_eq (name t : Text) :
    opensConstructor name t = (!name.isEmpty && opensBefore (lower name) '(' t) := by
  unfold opensConstructor opensBefore
  rfl

/-! ## Lines that open alike -/

/-- A text that a blank must follow at the start of a normalized line for it to have a scope or to be
kept. -/
inductive IsLead (scopes : ScopeList) : Text → Prop
  | listed {keyword : Text} : keyword ∈ scopes.keywords → IsLead scopes (lower keyword)
  | static : IsLead scopes "static".toList
  | type (keyword : TypeKeyword) : IsLead scopes keyword.text
  | staticTest {keyword gap : Text} : keyword ∈ scopes.keywords → lower keyword = Scope.testWord →
      gap ≠ [] → (∀ c ∈ gap, isBlank c) → IsLead scopes ("static".toList ++ gap ++ Scope.testWord)

/-- The normalized lines start with the same leads. -/
def SameLeads (scopes : ScopeList) (t t' : Text) : Prop :=
  ∀ word b, IsLead scopes word → isBlank b = true → (word ++ [b] <+: t' ↔ word ++ [b] <+: t)

namespace SameLeads

variable {scopes : ScopeList} {t t' : Text}

theorem opens_eq (h : SameLeads scopes t t') {word : Text} (hlead : IsLead scopes word) :
    Keyword.opens word t' = Keyword.opens word t := by
  rw [Bool.eq_iff_iff, Keyword.opens_iff, Keyword.opens_iff]
  refine and_congr_right fun _ => exists_congr fun b => and_congr_right fun hb => ?_
  exact h word b hlead hb

theorem isExplicit_eq (h : SameLeads scopes t t') {keyword : Text} (hk : keyword ∈ scopes.keywords) :
    Scope.isExplicit t' keyword = Scope.isExplicit t keyword := by
  unfold Scope.isExplicit
  rw [h.opens_eq (.listed hk)]
  by_cases htest : lower keyword = Scope.testWord
  · have hstatic : Scope.opensStaticTest t' = Scope.opensStaticTest t := by
      rw [Bool.eq_iff_iff, Scope.opensStaticTest_iff, Scope.opensStaticTest_iff]
      refine exists_congr fun gap => exists_congr fun b => and_congr_right fun hne =>
        and_congr_right fun hgap => and_congr_right fun hb => ?_
      exact h _ b (.staticTest hk htest hne hgap) hb
    rw [hstatic]
  · have hne : (lower keyword == Scope.testWord) = false := beq_eq_false_iff_ne.2 htest
    rw [hne, Bool.false_and, Bool.false_and]

theorem isByShape_eq (h : SameLeads scopes t t') : Scope.isByShape scopes t' = Scope.isByShape scopes t := by
  unfold Scope.isByShape
  rw [Bool.eq_iff_iff]
  simp only [Bool.and_eq_true, Bool.not_eq_true', List.any_eq_false]
  refine and_congr_right fun _ => forall₂_congr fun k hk => ?_
  rw [h.isExplicit_eq hk]

end SameLeads

/-- The tests that scopes and kept lines depend on have the same answers for two normalized lines. The shape
of a line only counts where no listed keyword opens it. -/
structure OpensAlike (scopes : ScopeList) (context : Option Context) (t t' : Text) : Prop where
  leads : SameLeads scopes t t'
  construct : ∀ c ∈ context, opensConstructor c.simpleName t' = opensConstructor c.simpleName t
  shape : Scope.isByShape scopes t = true → Scope.isImplicitlyPrivate t' = Scope.isImplicitlyPrivate t

namespace OpensAlike

variable {scopes : ScopeList} {context : Option Context}

theorem trans {t₁ t₂ t₃ : Text} (h : OpensAlike scopes context t₁ t₂) (h' : OpensAlike scopes context t₂ t₃) :
    OpensAlike scopes context t₁ t₃ where
  leads word b hword hb := (h'.leads word b hword hb).trans (h.leads word b hword hb)
  construct c hc := (h'.construct c hc).trans (h.construct c hc)
  shape hshape := (h'.shape (h.leads.isByShape_eq.trans hshape)).trans (h.shape hshape)

variable {line line' : Text}

/-- Lines that open alike have the same scope. -/
theorem scope_eq (h : OpensAlike scopes context (Scope.normalize line) (Scope.normalize line')) :
    Scope.ofLine? line' scopes = Scope.ofLine? line scopes := by
  unfold Scope.ofLine?
  simp only
  rw [List.find?_congr fun k hk => h.leads.isExplicit_eq hk]
  cases hexplicit : scopes.keywords.find? (Scope.isExplicit (Scope.normalize line)) with
  | some keyword => rfl
  | none =>
    cases hprivate : scopes.find? Scope.privateWord with
    | none => rw [ite_self, ite_self]
    | some keyword =>
      have hshape : Scope.isByShape scopes (Scope.normalize line) = true := by
        unfold Scope.isByShape ScopeList.contains
        rw [hprivate, Option.isSome_some, Bool.true_and, Bool.not_eq_true', List.any_eq_false]
        exact List.find?_eq_none.1 hexplicit
      rw [h.shape hshape]

/-- Lines that open alike and declare the same type, if any, are both kept or both not. In an interface,
lines that declare none also need a parenthesis alike. -/
theorem isKept_eq (h : OpensAlike scopes context (Scope.normalize line) (Scope.normalize line'))
    (hheader : TypeHeader.ofLine? line' = TypeHeader.ofLine? line)
    (hparen : TypeHeader.ofLine? line = none → context.any (·.isInterface) = true →
      ('(' ∈ Scope.normalize line' ↔ '(' ∈ Scope.normalize line)) :
    isKept line' scopes context = isKept line scopes context := by
  have htype : opensBareType (Scope.normalize line') = opensBareType (Scope.normalize line) := by
    rw [Bool.eq_iff_iff, opensBareType_iff, opensBareType_iff]
    exact exists_congr fun keyword => h.leads _ ' ' (.type keyword) (by decide)
  unfold isKept
  rw [h.scope_eq, htype, hheader]
  cases hnone : TypeHeader.ofLine? line with
  | some header => simp
  | none =>
    congr 1
    cases hcontext : context with
    | none => rfl
    | some c =>
      rw [hcontext, Option.any_some] at hparen
      simp only [Option.any_some, isKeptIn]
      rw [h.construct c hcontext]
      congr 1
      cases hinterface : c.isInterface with
      | false => rfl
      | true =>
        rw [Bool.true_and, Bool.true_and, Bool.eq_iff_iff, List.contains_iff_mem, List.contains_iff_mem]
        exact hparen hnone hinterface

end OpensAlike

/-! ## Lines that a parenthesis matters to -/

/-- Whether it matters that a line has a parenthesis: the kind and name of a member depend on it, and so can
its scope and whether it is kept. A blank stands for what follows a line that is a keyword only. -/
def heedsParen (scopes : ScopeList) (context : Option Context) (line : Text) : Bool :=
  ((TypeHeader.ofLine? line).isNone && (isKept line scopes context || context.any (·.isInterface))) ||
    (Scope.isByShape scopes (Scope.normalize line) &&
      (Keyword.opensMember (Scope.normalize line ++ [' ']) ||
        Keyword.startsCollection (Scope.normalize line)))

variable {scopes : ScopeList} {context : Option Context} {line : Text}

theorem heedsParen_of_isKept (hheader : TypeHeader.ofLine? line = none)
    (hkept : isKept line scopes context = true) : heedsParen scopes context line = true := by
  simp [heedsParen, hheader, hkept]

theorem heedsParen_of_isInterface (hheader : TypeHeader.ofLine? line = none)
    (hinterface : context.any (·.isInterface) = true) : heedsParen scopes context line = true := by
  simp [heedsParen, hheader, hinterface]

/-- Nothing that only a parenthesis completes opens a line that it does not matter to. -/
theorem opens_of_not_heedsParen (hshape : Scope.isByShape scopes (Scope.normalize line) = true)
    (h : ¬ heedsParen scopes context line = true) :
    Keyword.opensMember (Scope.normalize line ++ [' ']) = false ∧
      Keyword.startsCollection (Scope.normalize line) = false := by
  unfold heedsParen at h
  rw [Bool.not_eq_true, hshape, Bool.true_and, Bool.or_eq_false_iff, Bool.or_eq_false_iff] at h
  exact h.2

end Line

end ApexOutline
