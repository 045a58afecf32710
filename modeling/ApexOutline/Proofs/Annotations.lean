import ApexOutline.Annotations
import ApexOutline.Proofs.Text.Words
/-!
# What dropping annotations leaves

Dropping annotations takes a run of annotation characters off the start of a line
(`sheds_strip`), so braces are never dropped (`count_strip`). Blanks before the line do not matter
(`trimStart_strip_trimStart`), and neither does text after it that no annotation can take in
(`trimStart_strip_append`). The one way to take in text after a line is an argument list that the line
leaves open (`leavesOpen`, `trimStart_stripUpTo_append_inside`).
-/

namespace ApexOutline.Annotations

open Text

/-! ## The dropped part -/

/-- The characters that annotations are made of. -/
def isAnnotationChar (c : Char) : Bool :=
  isArgument c || c == '@' || c == '(' || c == ')'

theorem isAnnotationChar_of_isWord {c : Char} (h : isWord c) : isAnnotationChar c := by
  simp [isAnnotationChar, isArgument, h]

theorem isAnnotationChar_of_isBlank {c : Char} (h : isBlank c) : isAnnotationChar c := by
  simp [isAnnotationChar, isArgument, h]

theorem isAnnotationChar_of_isArgument {c : Char} (h : isArgument c) : isAnnotationChar c := by
  simp [isAnnotationChar, h]

/-- A text ends in `rest`, and annotation characters precede it. -/
def Sheds (t rest : Text) : Prop :=
  ∃ shed, t = shed ++ rest ∧ ∀ c ∈ shed, isAnnotationChar c

theorem Sheds.refl (t : Text) : Sheds t t :=
  ⟨[], rfl, by simp⟩

theorem Sheds.trans {t u v : Text} (h : Sheds t u) (h' : Sheds u v) : Sheds t v := by
  obtain ⟨a, rfl, ha⟩ := h
  obtain ⟨b, rfl, hb⟩ := h'
  refine ⟨a ++ b, (List.append_assoc a b v).symm, fun c hc => ?_⟩
  rcases List.mem_append.1 hc with hc | hc
  · exact ha c hc
  · exact hb c hc

theorem Sheds.cons {c : Char} (hc : isAnnotationChar c) {t u : Text} (h : Sheds t u) :
    Sheds (c :: t) u := by
  obtain ⟨shed, rfl, hs⟩ := h
  exact ⟨c :: shed, rfl, List.forall_mem_cons.2 ⟨hc, hs⟩⟩

theorem sheds_dropWhile {p : Char → Bool} (hp : ∀ c, p c → isAnnotationChar c) (t : Text) :
    Sheds t (t.dropWhile p) :=
  ⟨t.takeWhile p, List.takeWhile_append_dropWhile.symm, fun c hc => hp c (List.mem_takeWhile_imp hc)⟩

theorem sheds_trimStart (t : Text) : Sheds t (trimStart t) :=
  sheds_dropWhile (fun _ => isAnnotationChar_of_isBlank) t

theorem sheds_afterArguments? {t rest : Text} (h : afterArguments? t = some rest) : Sheds t rest := by
  unfold afterArguments? at h
  split at h
  · rename_i r hr
    split at h
    · rename_i u hu
      cases h
      have hopen : Sheds t ('(' :: r) := hr ▸ sheds_trimStart t
      have hargs : Sheds r (')' :: rest) :=
        hu ▸ sheds_dropWhile (fun _ => isAnnotationChar_of_isArgument) r
      have hclose : Sheds (')' :: rest) rest := (Sheds.refl rest).cons rfl
      exact hopen.trans ((hargs.trans hclose).cons rfl)
    · cases h
  · cases h

theorem sheds_after? {t rest : Text} (h : after? t = some rest) : Sheds t rest := by
  unfold after? at h
  split at h
  · rename_i c r hr
    split at h
    · rename_i hc
      cases h
      have hname : Sheds t (r.dropWhile isWord) := by
        refine (hr ▸ sheds_trimStart t : Sheds t ('@' :: c :: r)).trans (Sheds.cons rfl ?_)
        exact (sheds_dropWhile (fun _ => isAnnotationChar_of_isWord) r).cons
          (isAnnotationChar_of_isWord hc)
      refine hname.trans (Sheds.trans ?_ (sheds_trimStart _))
      cases ha : afterArguments? (r.dropWhile isWord) with
      | none => exact .refl _
      | some u => exact sheds_afterArguments? ha
    · cases h
  · cases h

theorem sheds_stripUpTo (n : Nat) (line : Text) : Sheds line (stripUpTo n line) := by
  induction n generalizing line with
  | zero => exact .refl line
  | succ n ih =>
    unfold stripUpTo
    split
    · rename_i rest h
      exact (sheds_after? h).trans (ih rest)
    · exact .refl line

/-- A line is some annotation characters and then what dropping its annotations leaves. -/
theorem sheds_strip (line : Text) : Sheds line (strip line) :=
  sheds_stripUpTo limit line

/-- A character that no annotation contains is never dropped. -/
theorem count_strip {b : Char} (hb : isAnnotationChar b = false) (line : Text) :
    (strip line).count b = line.count b := by
  obtain ⟨shed, hline, hshed⟩ := sheds_strip line
  have hzero : shed.count b = 0 := by
    rw [List.count_eq_zero]
    intro hmem
    have := hshed b hmem
    rw [hb] at this
    cases this
  conv_rhs => rw [hline]
  rw [List.count_append, hzero, Nat.zero_add]

/-! ## Text around a line -/

theorem after?_trimStart (t : Text) : after? (trimStart t) = after? t := by
  unfold after?
  rw [trimStart_trimStart]

/-- Blanks before a line stay or go, but nothing else changes. -/
theorem trimStart_stripUpTo_trimStart (n : Nat) (t : Text) :
    trimStart (stripUpTo n (trimStart t)) = trimStart (stripUpTo n t) := by
  cases n with
  | zero => exact trimStart_trimStart t
  | succ n =>
    simp only [stripUpTo, after?_trimStart]
    cases after? t with
    | none => exact trimStart_trimStart t
    | some rest => rfl

theorem trimStart_strip_trimStart (t : Text) : trimStart (strip (trimStart t)) = trimStart (strip t) :=
  trimStart_stripUpTo_trimStart limit t

/-- What follows the name of the annotation that opens a line. -/
def afterName? (line : Text) : Option Text :=
  match trimStart line with
  | '@' :: c :: r => if isWord c then some (r.dropWhile isWord) else none
  | _ => none

/-- What follows the parenthesis that closes an argument list, of which this is the inside. -/
def afterList? (t : Text) : Option Text :=
  match t.dropWhile isArgument with
  | ')' :: rest => some rest
  | _ => none

/-- Whether a text is an argument list that nothing closes. -/
def isOpenList (t : Text) : Bool :=
  match trimStart t with
  | '(' :: r => r.all isArgument
  | _ => false

/-- Whether what dropping at most `n` annotations leaves is an argument list that nothing closes. -/
def leavesOpenUpTo (n : Nat) (line : Text) : Bool :=
  (after? line).isSome && isOpenList (stripUpTo n line)

/-- Whether what dropping annotations leaves of a line is an argument list that nothing closes. -/
def leavesOpen (line : Text) : Bool :=
  leavesOpenUpTo limit line

theorem after?_eq (line : Text) :
    after? line = (afterName? line).map fun rest => trimStart ((afterArguments? rest).getD rest) := by
  by_cases h : ∃ c r, trimStart line = '@' :: c :: r
  · obtain ⟨c, r, hline⟩ := h
    unfold after? afterName?
    rw [hline]
    simp only
    split <;> rfl
  · have hafter : after? line = none := by
      unfold after?
      split
      · rename_i c r hline
        exact absurd ⟨c, r, hline⟩ h
      · rfl
    have hname : afterName? line = none := by
      unfold afterName?
      split
      · rename_i c r hline
        exact absurd ⟨c, r, hline⟩ h
      · rfl
    rw [hafter, hname]
    rfl

theorem afterArguments?_of_cons {t r : Text} (h : trimStart t = '(' :: r) :
    afterArguments? t = afterList? r := by
  have heq : afterArguments? t = match trimStart t with
      | '(' :: inside => afterList? inside
      | _ => none := rfl
  rw [heq, h]
  rfl

theorem isOpenList_iff {t : Text} :
    isOpenList t = true ↔ ∃ r, trimStart t = '(' :: r ∧ ∀ c ∈ r, isArgument c := by
  unfold isOpenList
  constructor
  · intro h
    split at h
    · rename_i r hr
      exact ⟨r, hr, List.all_eq_true.1 h⟩
    · cases h
  · rintro ⟨r, hr, hall⟩
    rw [hr]
    exact List.all_eq_true.2 hall

theorem isOpenList_trimStart (t : Text) : isOpenList (trimStart t) = isOpenList t := by
  unfold isOpenList
  rw [trimStart_trimStart]

theorem stripUpTo_of_after?_eq_none {t : Text} (h : after? t = none) (n : Nat) : stripUpTo n t = t := by
  cases n with
  | zero => rfl
  | succ n => rw [stripUpTo, h]

theorem after?_of_paren {t r : Text} (h : trimStart t = '(' :: r) : after? t = none := by
  unfold after?
  rw [h]
  simp

/-- A text that opens with a parenthesis opens with no annotation. -/
theorem stripUpTo_of_paren {t r : Text} (h : trimStart t = '(' :: r) (n : Nat) : stripUpTo n t = t :=
  stripUpTo_of_after?_eq_none (after?_of_paren h) n

theorem trimStart_stripUpTo_paren_append {t r : Text} (h : trimStart t = '(' :: r) (n : Nat) (u : Text) :
    trimStart (stripUpTo n (t ++ u)) = trimStart (stripUpTo n t) ++ u := by
  have hne : trimStart t ≠ [] := by
    rw [h]
    exact List.cons_ne_nil _ r
  have hu : trimStart (t ++ u) = '(' :: (r ++ u) := by
    rw [trimStart_append_of_ne_nil hne, h]
    rfl
  rw [stripUpTo_of_paren hu, stripUpTo_of_paren h, trimStart_append_of_ne_nil hne]

/-- Text that neither continues the name of an annotation nor opens an argument list or an
annotation. -/
structure Apart (u : Text) : Prop where
  endsName : ∀ c ∈ u.head?, isWord c = false
  opensNone : ∀ c ∈ (trimStart u).head?, c ≠ '(' ∧ c ≠ '@'

/-- Text that annotations before it cannot take in: it does not close an argument list either. -/
structure Detached (u : Text) : Prop extends Apart u where
  closesNone : ∀ c ∈ (u.dropWhile isArgument).head?, c ≠ ')'

theorem detached_blanks {u : Text} (hu : ∀ c ∈ u, isBlank c) : Detached u where
  endsName c hc := isWord_of_isBlank (hu c (List.mem_of_mem_head? hc))
  opensNone c hc := by
    rw [trimStart_eq_nil_iff.2 hu] at hc
    cases hc
  closesNone c hc := by
    have hnil : u.dropWhile isArgument = [] :=
      List.dropWhile_eq_nil_iff.2 fun d hd => by simp [isArgument, hu d hd]
    rw [hnil] at hc
    cases hc

theorem afterName?_append {u : Text} (hu : Apart u) (t : Text) :
    afterName? (t ++ u) = (afterName? t).map (· ++ u) := by
  unfold afterName?
  cases ht : trimStart t with
  | nil =>
    rw [trimStart_append_of_eq_nil ht]
    cases hu' : trimStart u with
    | nil => rfl
    | cons c r =>
      have hc := (hu.opensNone c (by rw [hu']; rfl)).2
      simp [hc]
  | cons c r =>
    rw [trimStart_append_of_ne_nil (by rw [ht]; exact List.cons_ne_nil c r), ht, List.cons_append]
    by_cases hc : c = '@'
    · subst hc
      cases r with
      | nil =>
        cases u with
        | nil => rfl
        | cons d v => simp [hu.endsName d rfl]
      | cons d r =>
        by_cases hd : isWord d
        · simp only [List.cons_append, hd, if_true, dropWhile_append_of_stop hu.endsName r,
            Option.map_some]
        · simp [hd]
    · simp [hc]

theorem afterList?_append_of_all {r : Text} (h : ∀ c ∈ r, isArgument c) (u : Text) :
    afterList? (r ++ u) = afterList? u := by
  unfold afterList?
  rw [List.dropWhile_append_of_pos h]

theorem afterList?_append_of_not_all {r : Text} (h : ¬ ∀ c ∈ r, isArgument c) (u : Text) :
    afterList? (r ++ u) = (afterList? r).map (· ++ u) := by
  have hr : r.dropWhile isArgument ≠ [] := fun hnil => h (List.dropWhile_eq_nil_iff.1 hnil)
  unfold afterList?
  rw [List.dropWhile_append, List.isEmpty_eq_false_iff.2 hr, if_neg Bool.false_ne_true]
  obtain ⟨d, v, hd⟩ := List.exists_cons_of_ne_nil hr
  rw [hd, List.cons_append]
  by_cases hd' : d = ')'
  · subst hd'
    rfl
  · simp [hd']

theorem afterArguments?_append {u : Text} (hu : Apart u) {t : Text} (ht : isOpenList t = false) :
    afterArguments? (t ++ u) = (afterArguments? t).map (· ++ u) := by
  have hnone {t : Text} (h : ∀ c ∈ (trimStart t).head?, c ≠ '(') : afterArguments? t = none := by
    unfold afterArguments?
    split
    · rename_i r hr
      exact absurd rfl (h '(' (by rw [hr]; rfl))
    · rfl
  cases hstart : trimStart t with
  | nil =>
    rw [hnone (t := t) (by rw [hstart]; simp), hnone]
    · rfl
    · rw [trimStart_append_of_eq_nil hstart]
      exact fun c hc => (hu.opensNone c hc).1
  | cons c r =>
    have hstart' : trimStart (t ++ u) = c :: (r ++ u) := by
      rw [trimStart_append_of_ne_nil (by rw [hstart]; exact List.cons_ne_nil c r), hstart]
      rfl
    by_cases hc : c = '('
    · subst hc
      have hall : ¬ ∀ c ∈ r, isArgument c := fun h => by
        rw [isOpenList_iff.2 ⟨r, hstart, h⟩] at ht
        cases ht
      rw [afterArguments?_of_cons hstart, afterArguments?_of_cons hstart',
        afterList?_append_of_not_all hall]
    · rw [hnone (t := t) (by rw [hstart]; simp [hc]), hnone (by rw [hstart']; simp [hc])]
      rfl

theorem afterArguments?_append_of_isOpenList {t : Text} (h : isOpenList t = true) (u : Text) :
    afterArguments? (t ++ u) = afterList? u := by
  obtain ⟨r, hr, hall⟩ := isOpenList_iff.1 h
  have hr' : trimStart (t ++ u) = '(' :: (r ++ u) := by
    rw [trimStart_append_of_ne_nil (by rw [hr]; exact List.cons_ne_nil _ r), hr]
    rfl
  rw [afterArguments?_of_cons hr', afterList?_append_of_all hall]

theorem afterArguments?_of_isOpenList {t : Text} (h : isOpenList t = true) : afterArguments? t = none := by
  have hnil := afterArguments?_append_of_isOpenList h []
  rwa [List.append_nil] at hnil

theorem afterList?_of_closesNone {u : Text} (hu : ∀ c ∈ (u.dropWhile isArgument).head?, c ≠ ')') :
    afterList? u = none := by
  unfold afterList?
  split
  · rename_i rest hrest
    exact absurd rfl (hu ')' (by rw [hrest]; rfl))
  · rfl

theorem after?_append {u : Text} (hu : Apart u) {t : Text}
    (hopen : ∀ rest ∈ afterName? t, isOpenList rest = true → afterList? u = none) :
    after? (t ++ u) = (after? t).map (fun rest => trimStart (rest ++ u)) := by
  rw [after?_eq, after?_eq, afterName?_append hu]
  cases hname : afterName? t with
  | none => rfl
  | some rest =>
    simp only [Option.map_some, Option.some.injEq]
    rw [trimStart_trimStart_append]
    cases hlist : isOpenList rest with
    | false =>
      rw [afterArguments?_append hu hlist]
      cases afterArguments? rest <;> rfl
    | true =>
      rw [afterArguments?_append_of_isOpenList hlist, afterArguments?_of_isOpenList hlist,
        hopen rest hname hlist]
      rfl

theorem leavesOpenUpTo_of_isOpenList {t rest : Text} (hname : afterName? t = some rest)
    (h : isOpenList rest = true) (n : Nat) : leavesOpenUpTo (n + 1) t = true := by
  have hafter : after? t = some (trimStart rest) := by
    rw [after?_eq, hname, Option.map_some, afterArguments?_of_isOpenList h]
    rfl
  obtain ⟨r, hr, -⟩ := isOpenList_iff.1 h
  have hstart : trimStart (trimStart rest) = '(' :: r := by rw [trimStart_trimStart, hr]
  unfold leavesOpenUpTo
  rw [hafter, stripUpTo, hafter]
  simp only [stripUpTo_of_paren hstart, isOpenList_trimStart, h, Option.isSome_some, Bool.and_self]

theorem leavesOpenUpTo_succ {t rest : Text} (h : after? t = some rest) (n : Nat) :
    leavesOpenUpTo (n + 1) t = isOpenList (stripUpTo n rest) := by
  unfold leavesOpenUpTo
  rw [stripUpTo, h]
  rfl

/-- Text after a line that no annotation can take in is left as it is, blanks before it apart. Only where
an argument list is left open does it matter that the text does not close it. -/
theorem trimStart_stripUpTo_append {u : Text} (hu : Apart u) (n : Nat) (t : Text)
    (hopen : leavesOpenUpTo n t = true → afterList? u = none) :
    trimStart (stripUpTo n (t ++ u)) = trimStart (stripUpTo n t ++ u) := by
  induction n generalizing t with
  | zero => rfl
  | succ n ih =>
    have hafter := after?_append hu (t := t) fun rest hrest hlist =>
      hopen (leavesOpenUpTo_of_isOpenList hrest hlist n)
    simp only [stripUpTo, hafter]
    cases ht : after? t with
    | none => rfl
    | some rest =>
      simp only [Option.map_some]
      rw [trimStart_stripUpTo_trimStart, ih]
      intro hrest
      refine hopen ?_
      rw [leavesOpenUpTo_succ ht]
      exact (Bool.and_eq_true _ _ ▸ hrest).2

theorem trimStart_strip_append_of_apart {u : Text} (hu : Apart u) {t : Text}
    (hopen : leavesOpen t = true → afterList? u = none) :
    trimStart (strip (t ++ u)) = trimStart (strip t ++ u) :=
  trimStart_stripUpTo_append hu limit t hopen

theorem trimStart_strip_append {u : Text} (hu : Detached u) (t : Text) :
    trimStart (strip (t ++ u)) = trimStart (strip t ++ u) :=
  trimStart_strip_append_of_apart hu.toApart fun _ => afterList?_of_closesNone hu.closesNone

/-- The argument characters may stand before the text after an open argument list. -/
structure Continues (args u : Text) : Prop extends Apart (args ++ u) where
  isArgument : ∀ c ∈ args, isArgument c

theorem after?_append_of_isOpenList {t rest args u : Text} (hname : afterName? t = some rest)
    (hopen : isOpenList rest = true) (hargs : Continues args u) :
    after? (t ++ (args ++ u)) = some (trimStart ((afterList? u).getD (rest ++ (args ++ u)))) := by
  rw [after?_eq, afterName?_append hargs.toApart, hname, Option.map_some, Option.map_some,
    afterArguments?_append_of_isOpenList hopen, afterList?_append_of_all hargs.isArgument]

/-- Argument characters and some more text after a line that leaves an argument list open: either the list
is closed in that text, and what is left does not depend on the characters, or nothing more is dropped. -/
theorem trimStart_stripUpTo_append_inside (u : Text) (n : Nat) {t : Text}
    (ht : leavesOpenUpTo n t = true) :
    (∃ rest, ∀ args, Continues args u → trimStart (stripUpTo n (t ++ (args ++ u))) = rest) ∨
      ∀ args, Continues args u →
        trimStart (stripUpTo n (t ++ (args ++ u))) = trimStart (stripUpTo n t) ++ (args ++ u) := by
  induction n generalizing t with
  | zero =>
    obtain ⟨hafter, hlist⟩ := Bool.and_eq_true_iff.1 ht
    obtain ⟨r, hr, -⟩ := isOpenList_iff.1 hlist
    rw [after?_of_paren (t := t) hr] at hafter
    cases hafter
  | succ n ih =>
    obtain ⟨next, hnext⟩ := Option.isSome_iff_exists.1 (Bool.and_eq_true_iff.1 ht).1
    rw [leavesOpenUpTo_succ hnext] at ht
    have hself : stripUpTo (n + 1) t = stripUpTo n next := by rw [stripUpTo, hnext]
    obtain ⟨rest, hrest, hnext'⟩ := Option.map_eq_some_iff.1 (after?_eq t ▸ hnext)
    cases hopen : isOpenList rest with
    | true =>
      obtain ⟨r, hr, -⟩ := isOpenList_iff.1 hopen
      rw [afterArguments?_of_isOpenList hopen] at hnext'
      cases hclose : afterList? u with
      | some v =>
        refine .inl ⟨trimStart (stripUpTo n (trimStart v)), fun args hargs => ?_⟩
        rw [stripUpTo, after?_append_of_isOpenList hrest hopen hargs, hclose]
        rfl
      | none =>
        refine .inr fun args hargs => ?_
        rw [hself, ← hnext', stripUpTo, after?_append_of_isOpenList hrest hopen hargs, hclose]
        simp only [Option.getD_none]
        rw [trimStart_stripUpTo_trimStart, trimStart_stripUpTo_paren_append hr,
          trimStart_stripUpTo_trimStart]
    | false =>
      have hstep {args : Text} (hargs : Continues args u) :
          trimStart (stripUpTo (n + 1) (t ++ (args ++ u))) =
            trimStart (stripUpTo n (next ++ (args ++ u))) := by
        have hafter := after?_append hargs.toApart (t := t) fun rest' hrest' hlist => by
          rw [Option.mem_def, hrest, Option.some.injEq] at hrest'
          rw [← hrest', hopen] at hlist
          cases hlist
        rw [stripUpTo, hafter, hnext]
        exact trimStart_stripUpTo_trimStart n _
      cases hmore : after? next with
      | some _ =>
        have hleaves : leavesOpenUpTo n next = true := by
          unfold leavesOpenUpTo
          rw [hmore, ht]
          rfl
        rcases ih hleaves with ⟨left, hleft⟩ | hleft
        · exact .inl ⟨left, fun args hargs => (hstep hargs).trans (hleft args hargs)⟩
        · refine .inr fun args hargs => ?_
          rw [hstep hargs, hleft args hargs, hself]
      | none =>
        rw [stripUpTo_of_after?_eq_none hmore] at ht
        obtain ⟨r, hr, -⟩ := isOpenList_iff.1 ht
        refine .inr fun args hargs => ?_
        rw [hstep hargs, trimStart_stripUpTo_paren_append hr, hself]

/-- Outer blanks of a line change no word of what dropping annotations leaves. -/
theorem words_strip_trim (t : Text) : words (strip (trim t)) = words (strip t) := by
  obtain ⟨before, after, ht, hbefore, hafter⟩ := exists_trim t
  have hstart : trimStart (before ++ trim t ++ after) = trimStart (trim t ++ after) := by
    rw [List.append_assoc, trimStart_append_of_eq_nil (trimStart_eq_nil_iff.2 hbefore)]
  conv_rhs =>
    rw [ht, words_congr (trimStart_strip_trimStart _).symm, hstart,
      words_congr (trimStart_strip_trimStart _),
      words_congr (trimStart_strip_append (detached_blanks hafter) _), words_append_blanks _ hafter]

end ApexOutline.Annotations
