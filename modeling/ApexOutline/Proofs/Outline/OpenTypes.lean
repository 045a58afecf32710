import ApexOutline.Proofs.Outline.DocAbove
import ApexOutline.Proofs.Outline.Nesting
import ApexOutline.Proofs.Outline.Parents
/-!
# Depth and open types

What is known after the first lines of a source text (`open_types_invariant`). The depth is the running sum
of the braces on the lines of code, cut off at zero (`depth_after`); which lines these are is told by the
comments alone (`codeLines`). Braces are the only thing that closes a type or marks it as opened, and they
leave the innermost type marked exactly when its body is open (`Marked`). A mark lasts as long as the type
(`stays_open`). The names of the open types grow by one name each (`NestedNames`).
-/

namespace ApexOutline.Outline

open Text

/-! ## Lines of code -/

/-- The lines outside block comments that are neither blank nor line comments, their outer blanks dropped.
The flag says whether a block comment is open before the first line. -/
def codeLines (inComment : Bool) : List Text → List Text
  | [] => []
  | line :: rest =>
    if inComment then codeLines (!has "*/".toList (trim line)) rest
    else if Line.IsRemark (trim line) then codeLines false rest
    else if "/*".toList <+: trim line then codeLines (!has "*/".toList ((trim line).drop 2)) rest
    else trim line :: codeLines false rest

/-- The depth after some lines of code, from the given one on. It never falls below zero. -/
def depthOver (depth : Int) (code : List Text) : Int :=
  code.foldl (fun d line => max 0 (d + braceSum line)) depth

variable {scopes : ScopeList} {number : Nat} {s s' : State} {line : Text} {outcome : Outcome}

theorem depthAfter_eq (depth : Nat) (line : Text) :
    (State.depthAfter depth line : Int) = max 0 (depth + braceSum line) := by
  unfold State.depthAfter braceSum
  omega

theorem inComment_continueComment (h : s.comment ≠ .outside) (line : Text) :
    decide ((s.continueComment line).comment ≠ .outside) = !has "*/".toList line := by
  unfold State.continueComment
  cases has "*/".toList line <;> simp [h]

theorem inComment_openComment (s : State) (line : Text) :
    decide ((s.openComment line).comment ≠ .outside) = !has "*/".toList (line.drop 2) := by
  unfold State.openComment
  cases has "*/".toList (line.drop 2) <;> cases State.opensDoc line <;> simp

theorem codeLines_of_isCode (h : Line.IsCode (trim line)) (rest : List Text) :
    codeLines false (line :: rest) = trim line :: codeLines false rest := by
  obtain ⟨hremark, hopening⟩ := Line.isCode_iff.1 h
  rw [codeLines, if_neg Bool.false_ne_true, if_neg hremark, if_neg hopening]

theorem depthOver_of_isCode (hout : s.comment = .outside) (hcode : Line.IsCode (trim line)) (rest : List Text) :
    depthOver s.depth (codeLines (s.comment ≠ .outside) (line :: rest)) =
      depthOver (State.depthAfter s.depth (trim line)) (codeLines (s.comment ≠ .outside) rest) := by
  rw [depthAfter_eq]
  simp only [hout, ne_eq, not_true_eq_false, decide_false, codeLines_of_isCode hcode]
  rfl

/-- A line of code adds its braces to the depth, and any other line leaves it alone. -/
theorem depth_step (h : Reads scopes number s (trim line) s' outcome) (rest : List Text) :
    depthOver s.depth (codeLines (s.comment ≠ .outside) (line :: rest)) =
      depthOver s'.depth (codeLines (s'.comment ≠ .outside) rest) := by
  cases h with
  | comment hin =>
    rw [inComment_continueComment hin]
    simp [codeLines, hin, State.continueComment]
  | blank hout hremark => simp [codeLines, hout, hremark]
  | opening hout hopening =>
    have hremark := not_isRemark_of_opening hopening
    rw [inComment_openComment]
    simp only [codeLines, hout, ne_eq, not_true_eq_false, decide_false, Bool.false_eq_true, if_false]
    rw [if_neg hremark, if_pos hopening]
    rfl
  | below hout hcode | declared hout hcode | skipped hout hcode =>
    exact depthOver_of_isCode hout hcode rest
  | annotations hout hcode _ hann =>
    -- No braces are counted here, but annotations hold none.
    rw [depthOver_of_isCode hout hcode, depthAfter_of_isAnnotations hann]

/-- The depth after some lines is that of the lines of code among them. -/
theorem depth_after (scopes : ScopeList) (s : State) (number : Nat) (ls : List Text) :
    ((State.after scopes s number ls).depth : Int) =
      depthOver s.depth (codeLines (s.comment ≠ .outside) ls) := by
  induction ls generalizing s number with
  | nil => rfl
  | cons line ls ih =>
    rw [depth_step (step_reads scopes number s line)]
    exact ih _ _

/-- Closing braces only lower the depth, so it is at most the number of opening ones. -/
theorem depthOver_le {depth : Int} (h : 0 ≤ depth) (code : List Text) :
    depthOver depth code ≤ depth + code.flatten.count '{' := by
  induction code generalizing depth with
  | nil => simp [depthOver]
  | cons line code ih =>
    have hline : max 0 (depth + braceSum line) ≤ depth + line.count '{' := by
      unfold braceSum
      omega
    have hrest := ih (Int.le_max_left 0 (depth + braceSum line))
    rw [List.flatten_cons, List.count_append]
    calc depthOver depth (line :: code)
        ≤ max 0 (depth + braceSum line) + code.flatten.count '{' := hrest
      _ ≤ depth + (line.count '{' + code.flatten.count '{' : Nat) := by omega

theorem count_codeLines_le (inComment : Bool) (ls : List Text) :
    (codeLines inComment ls).flatten.count '{' ≤ ls.flatten.count '{' := by
  induction ls generalizing inComment with
  | nil => exact le_rfl
  | cons line ls ih =>
    rw [List.flatten_cons, List.count_append]
    have hdropped (b : Bool) :
        (codeLines b ls).flatten.count '{' ≤ line.count '{' + ls.flatten.count '{' :=
      (ih b).trans (Nat.le_add_left _ _)
    unfold codeLines
    split
    · exact hdropped _
    split
    · exact hdropped _
    split
    · exact hdropped _
    · rw [List.flatten_cons, List.count_append, count_trim (by decide)]
      exact Nat.add_le_add_left (ih false) _

/-! ## The innermost type -/

/-- The innermost type is marked as opened exactly when its body is open. -/
def State.Marked (s : State) : Prop :=
  ∀ t ∈ s.openTypes.head?, (t.opened = true ↔ t.bodyDepth ≤ s.depth)

/-- Counting braces leaves the innermost type marked as it should be, whatever was marked before. -/
theorem marked_stillOpen (depth : Nat) (types : List OpenType) :
    ∀ t ∈ (State.stillOpen depth types).head?, (t.opened = true ↔ t.bodyDepth ≤ depth) := by
  induction types with
  | nil =>
    intro t ht
    cases ht
  | cons u types ih =>
    unfold State.stillOpen
    split
    · rename_i hbody
      rintro t ⟨⟩
      exact iff_of_true rfl hbody
    split
    · exact ih
    · rename_i hbody hopened
      rintro t ⟨⟩
      exact iff_of_false hopened hbody

theorem marked_step (h : s.Marked) (hreads : Reads scopes number s line s' outcome) : s'.Marked := by
  cases hreads with
  | comment | blank | opening | annotations => exact h
  | below | declared | skipped => exact marked_stillOpen _ _

theorem marked_after (h : s.Marked) (scopes : ScopeList) (number : Nat) (ls : List Text) :
    (State.after scopes s number ls).Marked := by
  induction ls generalizing s number with
  | nil => exact h
  | cons line ls ih => exact ih (marked_step h (step_reads scopes number s line)) _

/-! ## Marked types -/

theorem length_stillOpen_le (depth : Nat) (types : List OpenType) :
    (State.stillOpen depth types).length ≤ types.length := by
  induction types with
  | nil => exact le_rfl
  | cons u types ih =>
    unfold State.stillOpen
    split
    · exact le_rfl
    split
    · exact ih.trans (Nat.le_succ _)
    · exact le_rfl

/-- A marked type that is not closed stays as it is, with all types below it. -/
theorem suffix_stillOpen {depth : Nat} {t : OpenType} {rest types : List OpenType}
    (h : t :: rest <:+ types) (hopened : t.opened = true)
    (hstay : rest.length < (State.stillOpen depth types).length) :
    t :: rest <:+ State.stillOpen depth types := by
  induction types with
  | nil => exact h
  | cons u types ih =>
    unfold State.stillOpen at hstay ⊢
    rcases List.suffix_cons_iff.1 h with heq | hbelow
    · obtain ⟨rfl, rfl⟩ := List.cons.inj heq
      split
      · have hmark : { t with opened := true } = t := by rw [← hopened]
        simp only [hmark, List.suffix_rfl]
      · rename_i hbody
        rw [if_neg hbody, if_pos hopened] at hstay
        exact absurd hstay (Nat.not_lt.2 (length_stillOpen_le depth rest))
    · split
      · exact hbelow.trans (List.suffix_cons _ _)
      · rename_i hbody
        rw [if_neg hbody] at hstay
        split
        · rename_i hu
          rw [if_pos hu] at hstay
          exact ih hbelow hstay
        · exact h

theorem suffix_openTypesAfter (s : State) (d : Declaration) (line : Text) :
    s.openTypes <:+ s.openTypesAfter d line := by
  unfold State.openTypesAfter
  split
  · split
    · exact List.suffix_cons _ _
    · exact List.suffix_rfl
  · exact List.suffix_rfl

theorem stays_open_step {t : OpenType} {rest : List OpenType} (h : t :: rest <:+ s.openTypes)
    (hopened : t.opened = true) (hreads : Reads scopes number s line s' outcome)
    (hstay : rest.length < s'.openTypes.length) : t :: rest <:+ s'.openTypes := by
  cases hreads with
  | comment | blank | opening | annotations => exact h
  | below | skipped => exact suffix_stillOpen h hopened hstay
  | declared => exact suffix_stillOpen (h.trans (suffix_openTypesAfter _ _ _)) hopened hstay

/-- A marked type stays on the stack, marked, until the stack is lower than it. -/
theorem stays_open {t : OpenType} {rest : List OpenType} (h : t :: rest <:+ s.openTypes)
    (hopened : t.opened = true) {ls : List Text}
    (hstay : ∀ i ≤ ls.length,
      rest.length < (State.after scopes s number (ls.take i)).openTypes.length) :
    t :: rest <:+ (State.after scopes s number ls).openTypes := by
  induction ls generalizing s number with
  | nil => exact h
  | cons line ls ih =>
    have hline := hstay 1 (Nat.succ_le_succ (Nat.zero_le _))
    refine ih (stays_open_step h hopened (step_reads scopes number s line) hline) fun i hi => ?_
    exact hstay (i + 1) (Nat.succ_le_succ hi)

/-! ## Names of open types -/

/-- Dotted names, the longest first, each of which is the one below it, a dot, and one more name. -/
inductive NestedNames : List Text → Prop
  | nil : NestedNames []
  | cons {name : Text} {names : List Text} :
      NestedNames names → name ≠ [] → '.' ∉ name →
      NestedNames (qualifiedName names.head? name :: names)

theorem Declares.nestedNames {chain : List Declaration} {types : List OpenType}
    (h : Declares chain types) : NestedNames (types.map (·.context.name)) := by
  induction h with
  | nil => exact .nil
  | @cons d name t chain types hrest hd hparent hname ih =>
    have hdot : '.' ∉ name := fun hmem => by simpa using hd.dot_not_mem _ hmem
    rw [List.map_cons, hname, hparent, ← List.head?_map]
    exact .cons ih hd.name_ne_nil hdot

/-! ## The state after some lines -/

theorem afterLines_take {n m : Nat} (h : n ≤ m) (scopes : ScopeList) (ls : List Text) :
    State.afterLines scopes (ls.take m) =
      State.after scopes (State.afterLines scopes (ls.take n)) (1 + (ls.take n).length)
        ((ls.drop n).take (m - n)) := by
  rw [← afterLines_append, ← List.take_add, Nat.add_sub_cancel' h]

theorem depth_afterLines_le (scopes : ScopeList) (ls : List Text) :
    (State.afterLines scopes ls).depth ≤ ls.flatten.count '{' := by
  have hdepth : ((State.afterLines scopes ls).depth : Int) = depthOver 0 (codeLines false ls) :=
    depth_after scopes {} 1 ls
  have hbraces := depthOver_le (Int.le_refl 0) (codeLines false ls)
  have hlines := count_codeLines_le false ls
  omega

theorem marked_afterLines (scopes : ScopeList) (ls : List Text) : (State.afterLines scopes ls).Marked :=
  marked_after (fun t ht => by cases ht) scopes 1 ls

theorem nestedNames_afterLines (scopes : ScopeList) (ls : List Text) :
    NestedNames ((State.afterLines scopes ls).openTypes.map (·.context.name)) := by
  obtain ⟨chain, hchain, -⟩ := declares_after (s := {}) .nil scopes 1 ls
  exact hchain.nestedNames

/-- A type that is marked after some lines and not closed by the next ones is marked and its body open
whenever it is the innermost one again. -/
theorem body_open_of_innermost {t : OpenType} {rest : List OpenType} {ls : List Text} {n m : Nat}
    (h : t :: rest <:+ (State.afterLines scopes (ls.take n)).openTypes) (hopened : t.opened = true)
    (hle : n ≤ m)
    (hstay : ∀ k, n ≤ k → k ≤ m →
      rest.length < (State.afterLines scopes (ls.take k)).openTypes.length)
    (hlast : (State.afterLines scopes (ls.take m)).openTypes.length = rest.length + 1) :
    (State.afterLines scopes (ls.take m)).openTypes = t :: rest ∧
      t.bodyDepth ≤ (State.afterLines scopes (ls.take m)).depth := by
  have hsuffix : t :: rest <:+ (State.afterLines scopes (ls.take m)).openTypes := by
    rw [afterLines_take hle]
    refine stays_open h hopened fun i hi => ?_
    have him : i ≤ m - n := hi.trans (List.length_take_le _ _)
    have hprefix := afterLines_take (Nat.le_add_right n i) scopes ls
    rw [Nat.add_sub_cancel_left] at hprefix
    rw [List.take_take, Nat.min_eq_left him, ← hprefix]
    exact hstay (n + i) (Nat.le_add_right n i) (by omega)
  have hsame := hsuffix.eq_of_length hlast.symm
  refine ⟨hsame.symm, (marked_afterLines scopes (ls.take m) t ?_).1 hopened⟩
  rw [← hsame]
  rfl

/-- What holds after every number of lines. The depth is the running sum of the braces on the lines of
code, cut off at zero, so it is at most the number of opening braces read. The innermost type is marked as
opened exactly when the depth has reached its body; once marked, it is never innermost again with its body
closed, unless it has been closed itself. Each name of an open type is the one below it, a dot, and one
more name. -/
theorem open_types_invariant (scopes : ScopeList) (source : Text) (n : Nat) :
    let read (i : Nat) := (lines source).take i
    let state (i : Nat) := State.afterLines scopes (read i)
    ((state n).depth : Int) = depthOver 0 (codeLines false (read n)) ∧
      (state n).depth ≤ (read n).flatten.count '{' ∧
      (∀ t ∈ (state n).openTypes.head?, (t.opened = true ↔ t.bodyDepth ≤ (state n).depth)) ∧
      (∀ t rest, t :: rest <:+ (state n).openTypes → t.opened = true → ∀ m, n ≤ m →
        (∀ k, n ≤ k → k ≤ m → rest.length < (state k).openTypes.length) →
        (state m).openTypes.length = rest.length + 1 →
          (state m).openTypes = t :: rest ∧ t.bodyDepth ≤ (state m).depth) ∧
      NestedNames ((state n).openTypes.map (·.context.name)) := by
  intro read state
  refine ⟨depth_after scopes {} 1 (read n), depth_afterLines_le scopes (read n),
    marked_afterLines scopes (read n), ?_, nestedNames_afterLines scopes (read n)⟩
  intro t rest hsuffix hopened m hle hstay hlast
  exact body_open_of_innermost hsuffix hopened hle hstay hlast

/-- The outer type has its brace on a line of its own; the inner one is closed with another brace that
was opened behind its own. -/
theorem open_types_invariant_nested :
    let source := "class A\n\x7b\nclass B \x7b \x7b\n\x7d \x7d\n\x7d\n".toList
    let state (i : Nat) := State.afterLines ⟨[]⟩ ((lines source).take i)
    (state 1).openTypes.map (·.opened) = [false] ∧
      (state 3).openTypes.map (·.context.name) = ["A.B".toList, ['A']] ∧
      ∃ t, (state 2).openTypes = [t] ∧ (state 4).openTypes = [t] ∧ t.bodyDepth ≤ (state 4).depth := by
  intro source state
  let a : OpenType := ⟨⟨['A'], false⟩, 1, true⟩
  have htypes : (state 2).openTypes = [a] := by decide +kernel
  have hsuffix : [a] <:+ (state 2).openTypes := htypes.symm ▸ List.suffix_rfl
  have hstay : ∀ k, 2 ≤ k → k ≤ 4 → 0 < (state k).openTypes.length := by
    intro k hk hk'
    obtain rfl | rfl | rfl : k = 2 ∨ k = 3 ∨ k = 4 := by omega
    all_goals decide +kernel
  have hinvariant := (open_types_invariant ⟨[]⟩ source 2).2.2.2.1 a [] hsuffix rfl 4 (by omega) hstay
    (by decide +kernel)
  exact ⟨by decide +kernel, by decide +kernel, a, htypes, hinvariant⟩

end ApexOutline.Outline
