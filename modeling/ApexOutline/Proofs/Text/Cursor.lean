import ApexOutline.Proofs.Text.Parts
/-!
# The word at a cursor

A cursor has a last word before it and spaces between that word and itself; right behind a word that ends
in an identifier character it also has the rest of that identifier behind it (`Around`). The word at the
cursor is the last word with that rest (`Around.wordBefore_eq`), so all cursors inside one identifier have
the same word (`wordBefore_inside`), and there is none exactly when nothing but spaces stands before the
cursor (`wordBefore_eq_nil_iff`).

The word can also be found by position, with two bounds that move over the text (`wordAt?`). This has no
result once a character outside the text is read; it always has one, the word at the cursor
(`wordAt?_eq`).
-/

namespace ApexOutline.Text

/-! ## Reading by position -/

/-- Moves a bound back over characters that satisfy `p`. There is no result when a character outside the
text is read. -/
def moveBack? (p : Char → Bool) (t : Text) : Nat → Option Nat
  | 0 => some 0
  | bound + 1 => do
    let c ← t[bound]?
    if p c then moveBack? p t bound else some (bound + 1)

/-- Moves a bound ahead over characters that satisfy `p`, up to the end of the text at most. -/
def moveAhead? (p : Char → Bool) (t : Text) (bound : Nat) : Option Nat :=
  if bound < t.length then do
    let c ← t[bound]?
    if p c then moveAhead? p t (bound + 1) else some bound
  else some bound
termination_by t.length - bound

/-- The text between two bounds, when they are bounds of the text in this order. -/
def between? (t : Text) (start stop : Nat) : Option Text :=
  if start ≤ stop ∧ stop ≤ t.length then some ((t.take stop).drop start) else none

/-- The word at the cursor, found by position. The end of the word moves back over spaces and its start
over what is no space; when no space was passed over, the end may move ahead again. -/
def wordAt? (t : Text) (index : Nat) : Option Text :=
  if index = 0 ∨ t.length < index then some []
  else do
    let stop ← moveBack? (· == ' ') t index
    let start ← moveBack? (· != ' ') t stop
    if stop = index ∧ start < stop then
      let c ← t[stop - 1]?
      if isIdentifier c then between? t start (← moveAhead? isIdentifier t stop)
      else between? t start stop
    else between? t start stop

theorem moveBack?_append {p : Char → Bool} {s u : Text} (hs : ∀ c ∈ s.getLast?, p c = false)
    (hu : ∀ c ∈ u, p c) (v : Text) : moveBack? p (s ++ (u ++ v)) (s ++ u).length = some s.length := by
  induction u using List.reverseRecOn generalizing v with
  | nil =>
    rcases List.eq_nil_or_concat s with rfl | ⟨s, d, rfl⟩
    · rfl
    · have hd : p d = false := hs d (by simp)
      simp [moveBack?, hd]
  | append_singleton u c ih =>
    have hc : p c := hu c (by simp)
    have hlength : (s ++ (u ++ [c])).length = (s ++ u).length + 1 := by
      simp only [List.length_append, List.length_singleton]
      omega
    have hread : (s ++ (u ++ [c] ++ v))[(s ++ u).length]? = some c := by
      rw [show s ++ (u ++ [c] ++ v) = (s ++ u) ++ c :: v by simp]
      simp
    have hrest := ih (fun d hd => hu d (List.mem_append_left _ hd)) (c :: v)
    rw [hlength]
    unfold moveBack?
    rw [hread]
    simpa [hc] using hrest

theorem moveAhead?_append {p : Char → Bool} {u v : Text} (hu : ∀ c ∈ u, p c)
    (hv : ∀ c ∈ v.head?, p c = false) (s : Text) :
    moveAhead? p (s ++ (u ++ v)) s.length = some (s ++ u).length := by
  induction u generalizing s with
  | nil =>
    unfold moveAhead?
    cases v with
    | nil => simp
    | cons d v => simp [hv d rfl]
  | cons c u ih =>
    have hc : p c := hu c List.mem_cons_self
    have hrest := ih (fun d hd => hu d (List.mem_cons_of_mem c hd)) (s ++ [c])
    unfold moveAhead?
    simpa [hc] using hrest

theorem between?_append (s u v : Text) : between? (s ++ (u ++ v)) s.length (s ++ u).length = some u := by
  unfold between?
  rw [if_pos (by simp), ← List.append_assoc, List.take_left, List.drop_left]

/-! ## What stands around a cursor -/

/-- The cursor behind `run` and `gap` stands right behind an identifier character. -/
def Touches (run gap : Text) : Prop :=
  gap = [] ∧ ∃ c ∈ run.getLast?, isIdentifier c = true

/-- A text with a cursor: `run` is the last word before it, as far as there is no space, and `gap` the
spaces behind that word. What `tail` adds to the word behind the cursor is the longest run of identifier
characters there, and only if the cursor touches one. -/
structure Around (t : Text) (index : Nat) (front run gap tail rest : Text) : Prop where
  text_eq : t = front ++ (run ++ (gap ++ (tail ++ rest)))
  index_eq : index = (front ++ (run ++ gap)).length
  run_ne_nil : run ≠ []
  front_ends : ∀ c ∈ front.getLast?, c = ' '
  run_spaceless : ' ' ∉ run
  gap_spaces : ∀ c ∈ gap, c = ' '
  completed : Touches run gap → (∀ c ∈ tail, isIdentifier c) ∧ ∀ c ∈ rest.head?, isIdentifier c = false
  left_alone : ¬ Touches run gap → tail = []

theorem ne_space_of_isIdentifier {c : Char} (h : isIdentifier c = true) : c ≠ ' ' := by
  rintro rfl
  rw [isIdentifier_space] at h
  cases h

variable {t front run gap tail rest : Text} {index : Nat}

namespace Around

theorem split_eq (h : Around t index front run gap tail rest) :
    t = front ++ (run ++ gap) ++ (tail ++ rest) := by
  rw [h.text_eq]
  simp

theorem take_eq (h : Around t index front run gap tail rest) : t.take index = front ++ (run ++ gap) := by
  rw [h.split_eq, h.index_eq]
  exact List.take_left

theorem drop_eq (h : Around t index front run gap tail rest) : t.drop index = tail ++ rest := by
  rw [h.split_eq, h.index_eq]
  exact List.drop_left

theorem index_le (h : Around t index front run gap tail rest) : index ≤ t.length := by
  rw [h.text_eq, h.index_eq]
  simp only [List.length_append]
  omega

/-- The cursor touches an identifier exactly when the character before it is one of its characters. -/
theorem touches_iff (h : Around t index front run gap tail rest) :
    Touches run gap ↔ (t.take index).getLast?.any isIdentifier = true := by
  rw [h.take_eq, Option.any_eq_true]
  unfold Touches
  constructor
  · rintro ⟨rfl, c, hc, hident⟩
    refine ⟨c, ?_, hident⟩
    rw [List.append_nil, List.getLast?_append, Option.mem_def.1 hc]
    rfl
  · rintro ⟨c, hc, hident⟩
    rcases List.eq_nil_or_concat gap with rfl | ⟨spaces, d, rfl⟩
    · rw [List.append_nil, List.getLast?_append_of_ne_nil _ h.run_ne_nil] at hc
      exact ⟨rfl, c, hc, hident⟩
    · have hd : d = ' ' := h.gap_spaces d (by simp)
      have hcd : d = c := by simpa [← List.append_assoc] using hc
      exact absurd (hcd.symm.trans hd) (ne_space_of_isIdentifier hident)

/-- The word at the cursor is the last word before it, completed behind the cursor. -/
theorem wordBefore_eq (h : Around t index front run gap tail rest) : wordBefore t index = run ++ tail := by
  have hlast : lastWord (t.take index) = run := by
    rw [h.take_eq, ← List.append_assoc, lastWord_append_spaces _ h.gap_spaces]
    exact lastWord_append_run h.front_ends h.run_ne_nil h.run_spaceless
  rw [Text.wordBefore_eq h.index_le, hlast, h.drop_eq]
  congr 1
  by_cases htouches : Touches run gap
  · obtain ⟨htail, hrest⟩ := h.completed htouches
    rw [if_pos (h.touches_iff.1 htouches), takeWhile_append_of_stop hrest]
    exact List.takeWhile_eq_self_iff.2 htail
  · rw [if_neg (mt h.touches_iff.2 htouches), h.left_alone htouches]

/-- A cursor that moves ahead inside an identifier moves a character from the tail to the run. -/
theorem moveAhead {c : Char} (h : Around t index front run gap (c :: tail) rest) :
    Around t (index + 1) front (run ++ [c]) [] tail rest := by
  have htouches : Touches run gap := by
    by_contra hnot
    cases h.left_alone hnot
  obtain ⟨hident, hrest⟩ := h.completed htouches
  obtain ⟨rfl, -⟩ := htouches
  have hc : isIdentifier c = true := hident c List.mem_cons_self
  refine
    { text_eq := by simpa using h.text_eq
      index_eq := by simp [h.index_eq, Nat.add_assoc]
      run_ne_nil := by simp
      front_ends := h.front_ends
      run_spaceless := ?_
      gap_spaces := by simp
      completed := fun _ => ⟨fun d hd => hident d (List.mem_cons_of_mem c hd), hrest⟩
      left_alone := fun hnot => absurd ⟨rfl, c, by simp, hc⟩ hnot }
  rw [List.mem_append, List.mem_singleton]
  rintro (hspace | hspace)
  · exact h.run_spaceless hspace
  · exact ne_space_of_isIdentifier hc hspace.symm

theorem wordAt?_eq (h : Around t index front run gap tail rest) : wordAt? t index = some (run ++ tail) := by
  have hpos : 0 < run.length := List.length_pos_iff.2 h.run_ne_nil
  have hlength : (front ++ run).length = front.length + run.length := List.length_append
  have hindex : index = (front ++ run).length + gap.length := by
    rw [h.index_eq]
    simp [Nat.add_assoc]
  have hout : ¬ (index = 0 ∨ t.length < index) := by
    have hle := h.index_le
    omega
  have hstop : moveBack? (· == ' ') t index = some (front ++ run).length := by
    have hrun : ∀ c ∈ (front ++ run).getLast?, (c == ' ') = false := by
      intro c hc
      rw [List.getLast?_append_of_ne_nil _ h.run_ne_nil] at hc
      apply beq_eq_false_iff_ne.2
      rintro rfl
      exact h.run_spaceless (List.mem_of_getLast? hc)
    have hmove := moveBack?_append hrun (by simpa using h.gap_spaces) (tail ++ rest)
    rwa [List.append_assoc front, ← h.text_eq, List.append_assoc front, ← h.index_eq] at hmove
  have hstart : moveBack? (· != ' ') t (front ++ run).length = some front.length := by
    have hrun : ∀ c ∈ run, (c != ' ') = true := by
      intro c hc
      apply bne_iff_ne.2
      rintro rfl
      exact h.run_spaceless hc
    have hmove := moveBack?_append (by simpa using h.front_ends) hrun (gap ++ (tail ++ rest))
    rwa [← h.text_eq] at hmove
  have hword : between? t front.length (front ++ run).length = some run := by
    rw [h.text_eq]
    exact between?_append front run _
  unfold wordAt?
  rw [if_neg hout, hstop]
  simp only [Option.bind_eq_bind, Option.bind_some, hstart]
  by_cases hgap : gap = []
  · obtain ⟨run', c, hrun⟩ := (List.eq_nil_or_concat run).resolve_left h.run_ne_nil
    have htext : t = front ++ run ++ (tail ++ rest) := by simpa [hgap] using h.text_eq
    have hread : t[(front ++ run).length - 1]? = some c := by
      rw [htext, hrun]
      simp
    rw [if_pos (by rw [hindex, hgap]; simpa using hpos), hread, Option.bind_some]
    by_cases hc : isIdentifier c = true
    · obtain ⟨htail, hrest⟩ := h.completed ⟨hgap, c, by simp [hrun], hc⟩
      have hahead : moveAhead? isIdentifier t (front ++ run).length = some (front ++ run ++ tail).length := by
        rw [htext]
        exact moveAhead?_append htail hrest (front ++ run)
      rw [if_pos hc, hahead, Option.bind_some, htext, List.append_assoc, List.append_assoc,
        ← List.append_assoc run]
      exact between?_append front (run ++ tail) rest
    · rw [if_neg hc, hword, h.left_alone, List.append_nil]
      rintro ⟨-, d, hd, hident⟩
      have hdc : c = d := by simpa [hrun] using hd
      exact hc (hdc ▸ hident)
  · have hne : (front ++ run).length ≠ index := by
      have hlt := List.length_pos_iff.2 hgap
      omega
    rw [if_neg fun hand => hne hand.1, hword, h.left_alone fun htouches => hgap htouches.1, List.append_nil]

end Around

/-- The longest run at the end of a text, and what stands before it. -/
theorem exists_run_at_end (p : Char → Bool) (t : Text) :
    ∃ s u, t = s ++ u ∧ (∀ c ∈ s.getLast?, p c = false) ∧ ∀ c ∈ u, p c := by
  refine ⟨t.rdropWhile p, t.rtakeWhile p, List.rdropWhile_append_rtakeWhile.symm, ?_, ?_⟩
  · intro c hc
    obtain ⟨hne, rfl⟩ := List.mem_getLast?_eq_getLast hc
    simpa using List.rdropWhile_last_not p t hne
  · intro c hc
    exact List.mem_rtakeWhile_imp hc

theorem exists_last_run {s : Text} (h : ∃ c ∈ s, c ≠ ' ') :
    ∃ front run gap, s = front ++ (run ++ gap) ∧ run ≠ [] ∧ (∀ c ∈ front.getLast?, c = ' ') ∧ ' ' ∉ run ∧
      ∀ c ∈ gap, c = ' ' := by
  obtain ⟨before, gap, rfl, hbefore, hgap⟩ := exists_run_at_end (· == ' ') s
  obtain ⟨front, run, rfl, hfront, hrun⟩ := exists_run_at_end (· != ' ') before
  refine ⟨front, run, gap, List.append_assoc _ _ _, ?_, by simpa using hfront, ?_, by simpa using hgap⟩
  · rintro rfl
    rcases List.eq_nil_or_concat front with rfl | ⟨front, d, rfl⟩
    · obtain ⟨c, hc, hspace⟩ := h
      exact hspace (by simpa using hgap c hc)
    · simp_all
  · intro hspace
    simpa using hrun ' ' hspace

/-- Where something other than spaces stands before the cursor, there is a last word. -/
theorem exists_around (hle : index ≤ t.length) (h : ∃ c ∈ t.take index, c ≠ ' ') :
    ∃ front run gap tail rest, Around t index front run gap tail rest := by
  obtain ⟨front, run, gap, htake, hne, hfront, hrun, hgap⟩ := exists_last_run h
  have hindex : index = (front ++ (run ++ gap)).length := by
    rw [← htake, List.length_take, Nat.min_eq_left hle]
  have htext {tail rest : Text} (hdrop : t.drop index = tail ++ rest) :
      t = front ++ (run ++ (gap ++ (tail ++ rest))) := by
    have hsplit := List.take_append_drop index t
    rw [htake, hdrop] at hsplit
    simpa using hsplit.symm
  by_cases htouches : Touches run gap
  · refine ⟨front, run, gap, (t.drop index).takeWhile isIdentifier, (t.drop index).dropWhile isIdentifier,
      htext List.takeWhile_append_dropWhile.symm, hindex, hne, hfront, hrun, hgap, fun _ => ⟨?_, ?_⟩,
      absurd htouches⟩
    · intro c hc
      exact List.mem_takeWhile_imp hc
    · exact head_dropWhile isIdentifier _
  · exact ⟨front, run, gap, [], t.drop index, htext rfl, hindex, hne, hfront, hrun, hgap,
      fun h => absurd h htouches, fun _ => rfl⟩

theorem wordBefore_of_spaces (h : ∀ c ∈ t.take index, c = ' ') : wordBefore t index = [] := by
  rcases Nat.lt_or_ge t.length index with hlt | hle
  · exact wordBefore_of_lt hlt
  · rw [wordBefore_eq hle, if_neg, List.append_nil]
    · exact lastWord_append_spaces [] h
    · rw [Option.any_eq_true]
      rintro ⟨c, hc, hident⟩
      exact ne_space_of_isIdentifier hident (h c (List.mem_of_getLast? hc))

/-- A cursor has no word exactly when it stands at the start, behind the end, or behind spaces only. -/
theorem wordBefore_eq_nil_iff :
    wordBefore t index = [] ↔ index = 0 ∨ t.length < index ∨ ∀ c ∈ t.take index, c = ' ' := by
  constructor
  · intro hnil
    by_contra hnot
    push Not at hnot
    obtain ⟨-, hle, hsome⟩ := hnot
    obtain ⟨front, run, gap, tail, rest, h⟩ := exists_around hle hsome
    rw [h.wordBefore_eq] at hnil
    exact h.run_ne_nil (List.append_eq_nil_iff.1 hnil).1
  · rintro (rfl | hlt | hspaces)
    · exact wordBefore_of_spaces (by simp)
    · exact wordBefore_of_lt hlt
    · exact wordBefore_of_spaces hspaces

theorem wordAt?_of_spaces (hle : index ≤ t.length) (h : ∀ c ∈ t.take index, c = ' ') :
    wordAt? t index = some [] := by
  unfold wordAt?
  split
  · rfl
  · have hstop : moveBack? (· == ' ') t index = some 0 := by
      have hmove := moveBack?_append (p := (· == ' ')) (s := []) (by simp) (by simpa using h) (t.drop index)
      rwa [List.nil_append, List.nil_append, List.take_append_drop, List.length_take,
        Nat.min_eq_left hle] at hmove
    rw [hstop]
    simp [moveBack?, between?]

/-- No character outside the text is read for the word at a cursor. -/
theorem wordAt?_eq (t : Text) (index : Nat) : wordAt? t index = some (wordBefore t index) := by
  rcases Nat.lt_or_ge t.length index with hlt | hle
  · rw [wordBefore_of_lt hlt]
    exact if_pos (.inr hlt)
  by_cases hspaces : ∀ c ∈ t.take index, c = ' '
  · rw [wordBefore_of_spaces hspaces, wordAt?_of_spaces hle hspaces]
  · push Not at hspaces
    obtain ⟨front, run, gap, tail, rest, h⟩ := exists_around hle hspaces
    rw [h.wordBefore_eq, h.wordAt?_eq]

/-! ## Cursors inside one identifier -/

/-- Two cursors with an identifier character between them, and one before them, have the same word. -/
theorem wordBefore_succ {c d : Char} (hc : t[index]? = some c) (hd : t[index + 1]? = some d)
    (hidentc : isIdentifier c = true) (hidentd : isIdentifier d = true) :
    wordBefore t (index + 1) = wordBefore t (index + 2) := by
  have hlast : (t.take (index + 1)).getLast? = some c := by
    rw [List.take_add_one, hc]
    simp
  have hle : index + 1 ≤ t.length := (List.getElem?_eq_some_iff.1 hc).1
  obtain ⟨front, run, gap, tail, rest, h⟩ :=
    exists_around hle ⟨c, List.mem_of_getLast? hlast, ne_space_of_isIdentifier hidentc⟩
  have htouches : Touches run gap := h.touches_iff.2 (by simpa [hlast] using hidentc)
  have hhead : (tail ++ rest).head? = some d := by
    rw [← h.drop_eq, List.head?_drop, hd]
  cases tail with
  | nil =>
    have hstop := (h.completed htouches).2 d hhead
    rw [hidentd] at hstop
    cases hstop
  | cons e tail =>
    rw [h.wordBefore_eq, h.moveAhead.wordBefore_eq]
    simp

/-- All cursors inside an identifier or right behind it have the same word. -/
theorem wordBefore_inside {name : Text} (hname : ∀ c ∈ name, isIdentifier c) (front rest : Text) {i : Nat}
    (hi : i < name.length) :
    wordBefore (front ++ (name ++ rest)) (front.length + (i + 1)) =
      wordBefore (front ++ (name ++ rest)) (front.length + 1) := by
  have hread (j : Nat) (hj : j < name.length) :
      (front ++ (name ++ rest))[front.length + j]? = some name[j] := by
    rw [List.getElem?_append_right (Nat.le_add_right _ _), Nat.add_sub_cancel_left,
      List.getElem?_append_left hj, List.getElem?_eq_getElem hj]
  induction i with
  | zero => rfl
  | succ i ih =>
    have hi' : i < name.length := Nat.lt_of_succ_lt hi
    rw [← ih hi']
    exact (wordBefore_succ (hread i hi') (hread (i + 1) hi) (hname _ (List.getElem_mem hi'))
      (hname _ (List.getElem_mem hi))).symm

/-- The word at a cursor is exact, and stable while the cursor moves inside an identifier. It is found
without reading a character outside the text, whatever the index. There is none exactly when the cursor
stands at the start, behind the end, or behind spaces only; otherwise it is the longest run without spaces
that ends at the last character before the cursor that is no space, with the longest run of identifier
characters behind the cursor added when the cursor stands right behind such a character. It holds no space.
Two cursors have the same word when there is one identifier character before them and one between them, so
every cursor in one identifier has the same. -/
theorem word_at_cursor (t : Text) (index : Nat) :
    wordAt? t index = some (wordBefore t index) ∧
      (wordBefore t index = [] ↔ index = 0 ∨ t.length < index ∨ ∀ c ∈ t.take index, c = ' ') ∧
      (wordBefore t index ≠ [] ↔ ∃ front run gap tail rest, Around t index front run gap tail rest) ∧
      (∀ front run gap tail rest, Around t index front run gap tail rest →
        wordBefore t index = run ++ tail) ∧
      ' ' ∉ wordBefore t index ∧
      (∀ c d, t[index]? = some c → t[index + 1]? = some d → isIdentifier c = true → isIdentifier d = true →
        wordBefore t (index + 1) = wordBefore t (index + 2)) ∧
      ∀ front name rest, t = front ++ (name ++ rest) → (∀ c ∈ name, isIdentifier c = true) →
        ∀ i < name.length, ∀ j < name.length,
          wordBefore t (front.length + (i + 1)) = wordBefore t (front.length + (j + 1)) := by
  refine ⟨wordAt?_eq t index, wordBefore_eq_nil_iff, ⟨fun hne => ?_, ?_⟩, ?_, space_not_mem_wordBefore t index,
    ?_, ?_⟩
  · rw [ne_eq, wordBefore_eq_nil_iff] at hne
    push Not at hne
    exact exists_around hne.2.1 hne.2.2
  · rintro ⟨front, run, gap, tail, rest, h⟩
    rw [h.wordBefore_eq]
    exact List.append_ne_nil_of_left_ne_nil h.run_ne_nil tail
  · intro front run gap tail rest h
    exact h.wordBefore_eq
  · intro c d hc hd hidentc hidentd
    exact wordBefore_succ hc hd hidentc hidentd
  · rintro front name rest rfl hname i hi j hj
    rw [wordBefore_inside hname front rest hi, wordBefore_inside hname front rest hj]

/-- A cursor inside a name that stands behind two spaces, and the other cursors in that name. -/
theorem word_at_cursor_name :
    let t := "int  count = 5;".toList
    Around t 7 "int  ".toList "co".toList [] "unt".toList " = 5;".toList ∧
      wordAt? t 7 = some "count".toList ∧ wordBefore t 7 = wordBefore t 8 ∧
      (∀ i < 5, wordBefore t (5 + (i + 1)) = "count".toList) ∧ wordBefore t 5 = "int".toList := by
  intro t
  have hname : ∀ c ∈ "count".toList, isIdentifier c = true := List.all_eq_true.1 (by decide)
  have haround : Around t 7 "int  ".toList "co".toList [] "unt".toList " = 5;".toList :=
    { text_eq := rfl
      index_eq := rfl
      run_ne_nil := by decide
      front_ends := by rintro c ⟨⟩; rfl
      run_spaceless := by decide
      gap_spaces := by simp
      completed := fun _ => ⟨fun c hc => hname c ((List.suffix_append "co".toList _).subset hc),
        by rintro c ⟨⟩; decide⟩
      left_alone := fun hnot => absurd ⟨rfl, 'o', rfl, by decide⟩ hnot }
  obtain ⟨hread, -, -, hword, -, -, hinside⟩ := word_at_cursor t 7
  have hseven : wordBefore t 7 = "count".toList := hword _ _ _ _ _ haround
  refine ⟨haround, by rw [hread, hseven], ?_, ?_, by decide⟩
  · exact (word_at_cursor t 6).2.2.2.2.2.1 'o' 'u' rfl rfl (by decide) (by decide)
  · intro i hi
    exact (hinside "int  ".toList "count".toList " = 5;".toList rfl hname i hi 1 (by decide)).trans hseven

end ApexOutline.Text
