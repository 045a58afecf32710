import ApexOutline.Text.Blank
import ApexOutline.Text.Cursor
import ApexOutline.Text.Folding
import ApexOutline.Text.Lowercase
import Mathlib.Tactic.Common
/-!
# Text up to the case of ASCII letters

No character class of this library tells a capital ASCII letter from a small one (`CaseBlind`), so
cutting text into lines, words and runs commutes with `lowerAscii`, and so does the search for
symbols. The full lowercase mapping does not see the difference at all (`lower_lowerAscii`): whether a
sigma is final depends on which of its neighbours have case, not on the case they have.
-/

namespace ApexOutline.Text

/-! ## Characters -/

/-- The capital ASCII letters. -/
def capitals : List Char :=
  "ABCDEFGHIJKLMNOPQRSTUVWXYZ".toList

/-- The function takes a capital ASCII letter and its small one to the same value. -/
def CaseBlind {α : Type} (f : Char → α) : Prop :=
  ∀ c, f c.toLower = f c

theorem toLower_eq_or_mem_capitals (c : Char) : c.toLower = c ∨ c ∈ capitals := by
  by_cases h : c.toNat ≤ 90
  · have hall : ∀ n ≤ 90, (Char.ofNat n).toLower = Char.ofNat n ∨ Char.ofNat n ∈ capitals := by decide
    have hc := hall c.toNat h
    rwa [Char.ofNat_toNat] at hc
  · exact .inl (dif_neg fun hupper => h hupper.2)

/-- Only the capital letters need looking at. -/
theorem caseBlind_of_capitals {α : Type} {f : Char → α}
    (h : capitals.map (f ·.toLower) = capitals.map f) : CaseBlind f := by
  intro c
  rcases toLower_eq_or_mem_capitals c with hc | hc
  · rw [hc]
  · exact List.map_inj_left.1 h c hc

theorem toLower_toLower : CaseBlind Char.toLower :=
  caseBlind_of_capitals (by decide)

theorem caseBlind_isBlank : CaseBlind isBlank :=
  caseBlind_of_capitals (by decide)

theorem caseBlind_isWord : CaseBlind isWord :=
  caseBlind_of_capitals (by decide)

theorem caseBlind_isIdentifier : CaseBlind isIdentifier :=
  caseBlind_of_capitals (by decide)

theorem caseBlind_cased : CaseBlind casedRanges.covers :=
  caseBlind_of_capitals (by decide +kernel)

theorem caseBlind_caseIgnorable : CaseBlind caseIgnorableRanges.covers :=
  caseBlind_of_capitals (by decide +kernel)

theorem caseBlind_fold : CaseBlind fold :=
  caseBlind_of_capitals (by decide)

theorem caseBlind_lowerChar : CaseBlind lowerChar :=
  caseBlind_of_capitals (by decide)

/-- A symbol is no ASCII letter, so changing the case of letters neither makes nor removes one. -/
theorem caseBlind_beq {b : Char} (hb : b.isAlpha = false) : CaseBlind (· == b) := by
  have hall : capitals.all (fun c => c.isAlpha && c.toLower.isAlpha) = true := by decide
  refine caseBlind_of_capitals (List.map_inj_left.2 fun c hc => ?_)
  obtain ⟨hupper, hlower⟩ := Bool.and_eq_true_iff.1 (List.all_eq_true.1 hall c hc)
  have hne : c ≠ b := by rintro rfl; simp [hupper] at hb
  have hne' : c.toLower ≠ b := by rintro rfl; simp [hlower] at hb
  rw [beq_eq_false_iff_ne.2 hne, beq_eq_false_iff_ne.2 hne']

theorem toLower_eq_iff {b c : Char} (hb : b.isAlpha = false) : c.toLower = b ↔ c = b := by
  have h : (c.toLower == b) = (c == b) := caseBlind_beq hb c
  rw [← beq_iff_eq, h, beq_iff_eq]

theorem CaseBlind.comp {α β : Type} {f : Char → α} (h : CaseBlind f) (g : α → β) :
    CaseBlind (g <| f ·) := by
  intro c
  dsimp only
  rw [h c]

theorem CaseBlind.comp_toLower {α : Type} {f : Char → α} (h : CaseBlind f) : f ∘ Char.toLower = f :=
  funext h

/-! ## Cutting -/

variable {p : Char → Bool}

@[simp] theorem lowerAscii_nil : lowerAscii [] = [] := rfl

@[simp] theorem lowerAscii_cons (c : Char) (t : Text) :
    lowerAscii (c :: t) = c.toLower :: lowerAscii t := rfl

@[simp] theorem length_lowerAscii (t : Text) : (lowerAscii t).length = t.length :=
  List.length_map _

@[simp] theorem isEmpty_lowerAscii (t : Text) : (lowerAscii t).isEmpty = t.isEmpty :=
  List.isEmpty_map

@[simp] theorem lowerAscii_eq_nil {t : Text} : lowerAscii t = [] ↔ t = [] :=
  List.map_eq_nil_iff

@[simp] theorem lowerAscii_append (s t : Text) : lowerAscii (s ++ t) = lowerAscii s ++ lowerAscii t :=
  List.map_append

theorem lowerAscii_reverse (t : Text) : (lowerAscii t).reverse = lowerAscii t.reverse :=
  List.map_reverse.symm

theorem lowerAscii_take (n : Nat) (t : Text) : (lowerAscii t).take n = lowerAscii (t.take n) :=
  List.map_take.symm

theorem lowerAscii_drop (n : Nat) (t : Text) : (lowerAscii t).drop n = lowerAscii (t.drop n) :=
  List.map_drop.symm

@[simp] theorem lowerAscii_lowerAscii (t : Text) : lowerAscii (lowerAscii t) = lowerAscii t := by
  unfold lowerAscii
  rw [List.map_map, CaseBlind.comp_toLower toLower_toLower]

theorem dropWhile_lowerAscii (hp : CaseBlind p) (t : Text) :
    (lowerAscii t).dropWhile p = lowerAscii (t.dropWhile p) := by
  unfold lowerAscii
  rw [List.dropWhile_map, hp.comp_toLower]

theorem takeWhile_lowerAscii (hp : CaseBlind p) (t : Text) :
    (lowerAscii t).takeWhile p = lowerAscii (t.takeWhile p) := by
  unfold lowerAscii
  rw [List.takeWhile_map, hp.comp_toLower]

theorem dropWhileEnd_lowerAscii (hp : CaseBlind p) (t : Text) :
    dropWhileEnd p (lowerAscii t) = lowerAscii (dropWhileEnd p t) := by
  unfold dropWhileEnd
  rw [lowerAscii_reverse, dropWhile_lowerAscii hp, lowerAscii_reverse]

theorem trimStart_lowerAscii (t : Text) : trimStart (lowerAscii t) = lowerAscii (trimStart t) :=
  dropWhile_lowerAscii caseBlind_isBlank t

theorem trim_lowerAscii (t : Text) : trim (lowerAscii t) = lowerAscii (trim t) := by
  unfold trim dropAround
  rw [dropWhile_lowerAscii caseBlind_isBlank, dropWhileEnd_lowerAscii caseBlind_isBlank]

theorem splitOnP_map {f : Char → Char} (hp : ∀ c, p (f c) = p c) (t : Text) :
    (t.map f).splitOnP p = (t.splitOnP p).map (·.map f) := by
  induction t with
  | nil => rfl
  | cons c t ih =>
    rw [List.map_cons, List.splitOnP_cons_eq_if_modifyHead, List.splitOnP_cons_eq_if_modifyHead, hp c, ih]
    split
    · rfl
    · cases t.splitOnP p <;> rfl

theorem runs_map {f : Char → Char} (hp : ∀ c, p (f c) = p c) (t : Text) :
    runs p (t.map f) = (runs p t).map (·.map f) := by
  unfold runs
  rw [splitOnP_map (p := (!p ·)) fun c => congrArg (!·) (hp c), List.filter_map]
  congr 1
  refine List.filter_congr fun u _ => ?_
  exact congrArg _ List.isEmpty_map

theorem splitOnP_lowerAscii (hp : CaseBlind p) (t : Text) :
    (lowerAscii t).splitOnP p = (t.splitOnP p).map lowerAscii :=
  splitOnP_map hp t

theorem runs_lowerAscii (hp : CaseBlind p) (t : Text) :
    runs p (lowerAscii t) = (runs p t).map lowerAscii :=
  runs_map hp t

theorem words_lowerAscii (t : Text) : words (lowerAscii t) = (words t).map lowerAscii :=
  runs_lowerAscii (caseBlind_isBlank.comp _) t

/-! ## Symbols -/

/-- The text has no ASCII letter. -/
def IsSymbols (word : Text) : Prop :=
  ∀ c ∈ word, c.isAlpha = false

instance (word : Text) : Decidable (IsSymbols word) :=
  List.decidableBAll _ word

variable {word : Text}

theorem isPrefixOf_lowerAscii (hw : IsSymbols word) (t : Text) :
    word.isPrefixOf (lowerAscii t) = word.isPrefixOf t := by
  induction word generalizing t with
  | nil => rfl
  | cons b word ih =>
    cases t with
    | nil => rfl
    | cons c t =>
      obtain ⟨hb, hrest⟩ := List.forall_mem_cons.1 hw
      have hc : (c.toLower == b) = (c == b) := caseBlind_beq hb c
      rw [lowerAscii_cons, List.isPrefixOf_cons_cons, List.isPrefixOf_cons_cons, ih hrest,
        BEq.comm (a := b), BEq.comm (a := b), hc]

theorem isSuffixOf_lowerAscii (hw : IsSymbols word) (t : Text) :
    word.isSuffixOf (lowerAscii t) = word.isSuffixOf t := by
  unfold List.isSuffixOf
  rw [lowerAscii_reverse]
  exact isPrefixOf_lowerAscii (fun c hc => hw c (List.mem_reverse.1 hc)) _

theorem prefix_lowerAscii_iff (hw : IsSymbols word) {t : Text} :
    word <+: lowerAscii t ↔ word <+: t := by
  rw [← List.isPrefixOf_iff_prefix, ← List.isPrefixOf_iff_prefix, isPrefixOf_lowerAscii hw]

theorem has_lowerAscii (hw : IsSymbols word) (t : Text) : has word (lowerAscii t) = has word t := by
  induction t with
  | nil => rfl
  | cons c t ih =>
    have hprefix := isPrefixOf_lowerAscii hw (c :: t)
    rw [lowerAscii_cons] at hprefix
    rw [lowerAscii_cons, has, has, hprefix, ih]

theorem before?_lowerAscii (hw : IsSymbols word) (t : Text) :
    before? word (lowerAscii t) = (before? word t).map lowerAscii := by
  unfold before?
  rw [isSuffixOf_lowerAscii hw, length_lowerAscii, lowerAscii_take]
  split <;> rfl

theorem count_lowerAscii {b : Char} (hb : b.isAlpha = false) (t : Text) :
    (lowerAscii t).count b = t.count b := by
  unfold List.count lowerAscii
  rw [List.countP_map, (caseBlind_beq hb).comp_toLower]

theorem contains_lowerAscii {b : Char} (hb : b.isAlpha = false) (t : Text) :
    (lowerAscii t).contains b = t.contains b := by
  rw [Bool.eq_iff_iff, List.contains_iff_mem, List.contains_iff_mem, ← List.count_pos_iff,
    ← List.count_pos_iff, count_lowerAscii hb]

theorem dropReturn_lowerAscii (t : Text) : dropReturn (lowerAscii t) = lowerAscii (dropReturn t) := by
  unfold dropReturn
  rw [before?_lowerAscii (by decide), Option.getD_map]

theorem lines_lowerAscii (t : Text) : lines (lowerAscii t) = (lines t).map lowerAscii := by
  unfold lines
  rw [splitOnP_lowerAscii (caseBlind_beq (by decide))]
  generalize t.splitOnP (· == '\n') = pieces
  have hlast : ∀ o : Option Text, (o.map lowerAscii).toList.filter (!·.isEmpty) =
      (o.toList.filter (!·.isEmpty)).map lowerAscii := by
    intro o
    cases o with
    | none => rfl
    | some u => cases u <;> rfl
  dsimp only
  rw [← List.map_dropLast, List.getLast?_map, hlast, List.map_append, List.map_map, List.map_map]
  congr 1
  exact List.map_congr_left fun u _ => dropReturn_lowerAscii u

theorem join_lowerAscii (separator : Text) (pieces : List Text) :
    join (lowerAscii separator) (pieces.map lowerAscii) = lowerAscii (join separator pieces) := by
  unfold join
  induction pieces with
  | nil => rfl
  | cons first rest ih =>
    cases rest with
    | nil => simp [List.intercalate]
    | cons second rest =>
      simp only [List.map_cons, List.intercalate_cons_cons, lowerAscii_append] at ih ⊢
      rw [ih]

/-! ## Words and names -/

theorem foldsTo_lowerAscii (word t : Text) : foldsTo word (lowerAscii t) = foldsTo word t := by
  unfold foldsTo lowerAscii
  rw [List.map_map, caseBlind_fold.comp_toLower]

theorem wordBefore_lowerAscii (t : Text) (index : Nat) :
    wordBefore (lowerAscii t) index = lowerAscii (wordBefore t index) := by
  have hspace : CaseBlind (· == ' ') := caseBlind_beq (by decide)
  have hword : CaseBlind (· != ' ') := hspace.comp (!·)
  unfold wordBefore
  rw [length_lowerAscii]
  split
  · rfl
  simp only [lowerAscii_take, lowerAscii_drop, lowerAscii_reverse, dropWhile_lowerAscii hspace,
    takeWhile_lowerAscii hword, takeWhile_lowerAscii caseBlind_isIdentifier]
  cases (t.take index).reverse with
  | nil => rfl
  | cons c r =>
    dsimp only [lowerAscii_cons]
    rw [caseBlind_isIdentifier c]
    split
    · exact (lowerAscii_append _ _).symm
    · rfl

/-! ## Lowercase -/

theorem meetsCased_lowerAscii (t : Text) : meetsCased (lowerAscii t) = meetsCased t := by
  unfold meetsCased
  rw [dropWhile_lowerAscii caseBlind_caseIgnorable]
  cases t.dropWhile caseIgnorableRanges.covers with
  | nil => rfl
  | cons c r => exact caseBlind_cased c

theorem lowerBetween_lowerAscii (before : Text) (c : Char) (after : Text) :
    lowerBetween (lowerAscii before) c.toLower (lowerAscii after) = lowerBetween before c after := by
  have hsigma : (c.toLower == 'Σ') = (c == 'Σ') := caseBlind_beq (by decide) c
  unfold lowerBetween
  rw [hsigma, meetsCased_lowerAscii, meetsCased_lowerAscii, caseBlind_lowerChar c]

theorem lowerAfter_lowerAscii (before t : Text) :
    lowerAfter (lowerAscii before) (lowerAscii t) = lowerAfter before t := by
  induction t generalizing before with
  | nil => rfl
  | cons c t ih =>
    rw [lowerAscii_cons, lowerAfter, lowerAfter, lowerBetween_lowerAscii, ← lowerAscii_cons, ih]

/-- The lowercase of a text does not depend on the case of its ASCII letters. -/
theorem lower_lowerAscii (t : Text) : lower (lowerAscii t) = lower t :=
  lowerAfter_lowerAscii [] t

end ApexOutline.Text
