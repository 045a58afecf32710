import ApexOutline.Proofs.Outline.Append
import ApexOutline.Proofs.Text.Marks
/-!
# Doc comments read back

Lines of text can be written as a doc comment, on lines of their own or, when there is only one, on a single
line (`Writes`). Reading the comment gives them back, with an empty line before and after them in the first
form (`texts_writes`). At member level the text then waits over inert lines (`after_inert`) for the
declaration below, which takes it (`doc_round_trip`).
-/

namespace ApexOutline

open Text

/-! ## Lines -/

/-- The lines one after the other, each with a line feed. -/
def Text.unlines (ls : List Text) : Text :=
  ls.flatMap (· ++ ['\n'])

theorem Text.endsLine_unlines (ls : List Text) : EndsLine (unlines ls) := by
  rcases List.eq_nil_or_concat ls with rfl | ⟨front, last, rfl⟩
  · exact .inl rfl
  · exact .inr (by simp [unlines])

theorem Text.lines_unlines {ls : List Text} (h : ∀ l ∈ ls, '\n' ∉ l) : lines (unlines ls) = ls.map dropReturn := by
  induction ls with
  | nil => exact lines_nil
  | cons first rest ih =>
    obtain ⟨hfirst, hrest⟩ := List.forall_mem_cons.1 h
    have hpieces : pieces first = [first] :=
      List.splitOnP_eq_singleton fun c hc => beq_eq_false_iff_ne.2 fun heq => hfirst (heq ▸ hc)
    have hunlines : unlines (first :: rest) = first ++ '\n' :: unlines rest := by simp [unlines]
    rw [hunlines, lines_append_newline, hpieces, ih hrest]
    rfl

namespace DocComment

/-! ## Writing -/

/-- A line of text that can stand in a doc comment: it has no blanks around it, does not start with a star,
and holds neither a line feed nor the mark that closes a comment. -/
structure IsWritable (t : Text) : Prop where
  trim_eq : trim t = t
  star : t.head? ≠ some '*'
  newline : '\n' ∉ t
  closing : ¬ "*/".toList <:+: t

/-- A line of text behind its star. -/
def starred (t : Text) : Text :=
  [' ', '*', ' '] ++ t

/-- A line of text as a whole comment. -/
def enclosed (t : Text) : Text :=
  ['/', '*', '*', ' '] ++ t ++ [' ', '*', '/']

/-- The lines of text are written as these lines of a doc comment. -/
inductive Writes : List Text → List Text → Prop
  -- Each line behind a star, between a line that opens the comment and one that closes it.
  | block (ts : List Text) : Writes ts ("/**".toList :: (ts.map starred ++ [" */".toList]))
  -- One line of text on one line.
  | single (t : Text) : Writes [t] [enclosed t]

variable {t : Text} {ts comment : List Text}

/-! ## Reading back -/

theorem trim_starred (t : Text) : trim (starred t) = '*' :: trimEnd (' ' :: t) :=
  trim_append_cons (by decide) [' '] (' ' :: t)

theorem closing_not_infix_starred (h : IsWritable t) : ¬ "*/".toList <:+: trim (starred t) := by
  intro hclosing
  have hpart : ['*', '/'] <:+: ' ' :: '*' :: ' ' :: t := hclosing.trans (infix_trim _)
  simp only [List.infix_cons_iff, List.cons_prefix_cons] at hpart
  exact h.closing (by simpa using hpart)

theorem closes_starred (h : IsWritable t) : closes 0 (starred t) = false :=
  Bool.eq_false_iff.2 fun hcloses => closing_not_infix_starred h (has_iff.1 hcloses)

theorem lineText_starred (h : IsWritable t) : lineText (trim (starred t)) = t := by
  have hopen : before? "*/".toList (trim (starred t)) = none := by
    refine if_neg fun hsuffix => closing_not_infix_starred h ?_
    exact (List.isSuffixOf_iff_suffix.1 hsuffix).isInfix
  have hstar : (trim (starred t)).dropWhile (· == '*') = trimEnd (' ' :: t) := by
    rw [trim_starred, List.dropWhile_cons_of_pos (by decide)]
    obtain ⟨after, hafter, -⟩ := exists_trimEnd (' ' :: t)
    cases hend : trimEnd (' ' :: t) with
    | nil => rfl
    | cons c r =>
      rw [hend] at hafter
      obtain ⟨rfl, -⟩ := List.cons.inj hafter
      rfl
  have htext : trim (trimEnd (' ' :: t)) = t := by
    obtain ⟨after, hafter, hblank⟩ := exists_trimEnd (' ' :: t)
    rw [← trim_append_blanks (trimEnd (' ' :: t)) hblank, ← hafter]
    exact (trim_blanks_append (s := [' ']) (List.forall_mem_singleton.2 (by decide)) t).trans h.trim_eq
  unfold lineText
  dsimp only
  rw [trim_trim, hopen, Option.getD_none, hstar, htext]

theorem map_lineText_starred (h : ∀ t ∈ ts, IsWritable t) :
    (ts.map starred).map (lineText <| trim ·) = ts := by
  induction ts with
  | nil => rfl
  | cons t ts ih =>
    obtain ⟨ht, hts⟩ := List.forall_mem_cons.1 h
    rw [List.map_cons, List.map_cons, lineText_starred ht, ih hts]

theorem isOpen_starred (h : ∀ t ∈ ts, IsWritable t) : IsOpen ("/**".toList :: ts.map starred) := by
  induction ts using List.reverseRecOn with
  | nil => exact .first (by decide) (by decide)
  | append_singleton ts t ih =>
    have hts : ∀ t ∈ ts, IsWritable t := fun t ht => h t (List.mem_append_left _ ht)
    rw [List.map_append, ← List.cons_append]
    exact (ih hts).next (closes_starred (h t (by simp)))

theorem trim_enclosed (t : Text) : trim (enclosed t) = enclosed t := by
  have hend : enclosed t = ['/', '*', '*', ' '] ++ t ++ [' ', '*'] ++ ['/'] := by simp [enclosed]
  rw [hend, trim_append_cons (by decide)]
  rfl

theorem lineText_enclosed (h : IsWritable t) : lineText ((enclosed t).drop 3) = t := by
  have hdrop : (enclosed t).drop 3 = ' ' :: (t ++ [' ']) ++ '*' :: ['/'] := by simp [enclosed]
  have htrim : trim ((enclosed t).drop 3) = trimStart (t ++ [' ']) ++ "*/".toList := by
    rw [hdrop, trim_append_cons (by decide)]
    rfl
  have hbefore : before? "*/".toList (trim ((enclosed t).drop 3)) = some (trimStart (t ++ [' '])) := by
    rw [htrim]
    unfold before?
    rw [if_pos (List.isSuffixOf_iff_suffix.2 (List.suffix_append _ _))]
    simp
  have htext : (trimStart (t ++ [' '])).dropWhile (· == '*') = trimStart (t ++ [' ']) := by
    cases t with
    | nil => rfl
    | cons c r =>
      have hstart : trimStart (c :: r) = c :: r := trimStart_of_trim_eq h.trim_eq
      rw [trimStart_append_of_ne_nil (by simp [hstart]), hstart]
      exact List.dropWhile_cons_of_neg (by simpa using h.star)
  unfold lineText
  dsimp only
  rw [hbefore, Option.getD_some, htext, trim_eq, trimStart_trimStart, ← trim_eq,
    trim_append_blanks t (List.forall_mem_singleton.2 (by decide)), h.trim_eq]

theorem opens_enclosed (t : Text) : opens (enclosed t) = true := by
  unfold opens
  rw [trim_enclosed]
  rfl

theorem closes_enclosed (t : Text) : closes 2 (enclosed t) = true := by
  have hdrop : (enclosed t).drop 2 = (['*', ' '] ++ t ++ [' ']) ++ (['*', '/'] ++ []) := by
    simp [enclosed]
  unfold closes
  rw [trim_enclosed, hdrop]
  exact has_append _ _ _

theorem isWhole_of_writes (h : Writes ts comment) (hts : ∀ t ∈ ts, IsWritable t) : IsWhole comment := by
  cases h with
  | block => exact .last (isOpen_starred hts) (by decide)
  | single t => exact .single (opens_enclosed t) (closes_enclosed t)

/-- Reading a written comment gives its text back, but for an empty line before and after it. -/
theorem texts_writes (h : Writes ts comment) (hts : ∀ t ∈ ts, IsWritable t) :
    texts comment = ts ∨ texts comment = [] :: (ts ++ [[]]) := by
  cases h with
  | block =>
    right
    simp only [texts, List.map_append, map_lineText_starred hts]
    rfl
  | single t =>
    left
    simp only [texts, trim_enclosed, lineText_enclosed (hts t (List.mem_singleton_self t)), List.map_nil]

/-- The doc text of lines: they are joined, and blanks around them and empty texts do not count. -/
theorem ofLines?_eq (ls : List Text) :
    ofLines? ls = if trim (join ['\n'] ls) = [] then none else some (trim (join ['\n'] ls)) := by
  unfold ofLines?
  cases trim (join ['\n'] ls) <;> rfl

theorem ofLines?_writes (h : Writes ts comment) (hts : ∀ t ∈ ts, IsWritable t) :
    ofLines? (texts comment) = ofLines? ts := by
  rw [ofLines?_eq, ofLines?_eq]
  rcases texts_writes h hts with htexts | htexts
  · rw [htexts]
  · rw [htexts, trim_join_nil_cons, trim_join_concat_nil]

theorem newline_not_mem_of_writes (h : Writes ts comment) (hts : ∀ t ∈ ts, IsWritable t) :
    ∀ l ∈ comment, '\n' ∉ l := by
  cases h with
  | block =>
    intro l hl
    rcases List.mem_cons.1 hl with rfl | hl
    · decide
    rcases List.mem_append.1 hl with hl | hl
    · obtain ⟨t, ht, rfl⟩ := List.mem_map.1 hl
      simpa [starred] using (hts t ht).newline
    · rw [List.mem_singleton.1 hl]
      decide
  | single t =>
    intro l hl
    rw [List.mem_singleton.1 hl]
    simpa [enclosed] using (hts t (List.mem_singleton_self t)).newline

end DocComment

namespace Outline

open DocComment

variable {scopes : ScopeList} {number : Nat} {s : State} {line : Text}

/-! ## Waiting -/

/-- An inert line at member level changes nothing. -/
theorem step_inert_member (hout : s.comment = .outside) (hlevel : s.atMemberLevel = true)
    (h : Line.IsInert (trim line)) : (s.step scopes number line).1 = s := by
  have hreads := step_reads scopes number s line
  generalize (s.step scopes number line).1 = s' at hreads ⊢
  generalize (s.step scopes number line).2 = outcome at hreads
  cases hreads with
  | comment hin => exact absurd hout hin
  | blank | annotations => rfl
  | opening _ hopen => exact absurd h (not_isInert_of_opening hopen)
  | below _ _ hbelow =>
    rw [hlevel] at hbelow
    cases hbelow
  | declared _ hcode _ hann | skipped _ hcode _ hann =>
    rcases h with h | h
    · exact absurd h (Line.isCode_iff.1 hcode).1
    · exact absurd h hann

theorem after_inert {ls : List Text} (hout : s.comment = .outside) (hlevel : s.atMemberLevel = true)
    (h : ∀ l ∈ ls, Line.IsInert (trim l)) : State.after scopes s number ls = s := by
  induction ls generalizing number with
  | nil => rfl
  | cons line ls ih =>
    obtain ⟨hline, hls⟩ := List.forall_mem_cons.1 h
    rw [State.after, step_inert_member hout hlevel hline]
    exact ih hls

/-- A doc comment that is written at member level waits over inert lines. -/
theorem after_writes {ts comment between : List Text} (hcomment : Writes ts comment)
    (hts : ∀ t ∈ ts, IsWritable t) (hout : s.comment = .outside) (hlevel : s.atMemberLevel = true)
    (hbetween : ∀ l ∈ between, Line.IsInert (trim l)) :
    State.after scopes s number (comment ++ between) = { s with pendingDoc := texts comment } := by
  rw [after_append, after_isWhole (isWhole_of_writes hcomment hts) hout]
  exact after_inert hout hlevel hbetween

/-! ## Sources -/

theorem lines_commented {a b indent : Text} {ts comment : List Text} (hcomment : Writes ts comment)
    (hts : ∀ t ∈ ts, IsWritable t) (hindent : ∀ c ∈ indent, isBlank c ∧ c ≠ '\n') (ha : EndsLine a) :
    ∃ block, lines (a ++ unlines (comment.map (indent ++ ·)) ++ b) = lines a ++ block ++ lines b ∧
      block.map trim = comment.map trim := by
  refine ⟨(comment.map (indent ++ ·)).map dropReturn, ?_, ?_⟩
  · have hnewline : ∀ l ∈ comment.map (indent ++ ·), '\n' ∉ l := by
      intro l hl
      obtain ⟨m, hm, rfl⟩ := List.mem_map.1 hl
      rw [List.mem_append, not_or]
      exact ⟨fun h => (hindent _ h).2 rfl, newline_not_mem_of_writes hcomment hts m hm⟩
    rw [List.append_assoc, lines_append ha, lines_append (endsLine_unlines _), lines_unlines hnewline,
      List.append_assoc]
  · rw [List.map_map, List.map_map]
    refine List.map_congr_left fun l _ => ?_
    exact (trim_dropReturn _).trans (trim_blanks_append (fun c hc => (hindent c hc).1) l)

/-- The doc text of a declaration and its links, for lines of text that were written above it. -/
theorem docComment_declare (scopes : ScopeList) (number : Nat) (s : State) (line : Text)
    {ts comment : List Text} (hcomment : Writes ts comment) (hts : ∀ t ∈ ts, IsWritable t) :
    let d := State.declare { s with pendingDoc := texts comment } scopes number line
    let text := trim (join ['\n'] ts)
    d.docComment = (if text = [] then none else some text) ∧
      d.links = ((words text).map (dropAround isAroundLink)).filter isUrl := by
  intro d text
  have hdoc : d.docComment = if text = [] then none else some text :=
    (ofLines?_writes hcomment hts).trans (ofLines?_eq ts)
  refine ⟨hdoc, ?_⟩
  change (d.docComment.map DocComment.links).getD [] = _
  rw [hdoc]
  split
  · rename_i hnil
    rw [hnil, words_nil]
    rfl
  · rfl

/-- Doc comments are read back. Lines of text are written as a doc comment at member level, indented in any
way; below it stand inert lines and then a line that is kept. The declaration on that line has the text for
its doc comment, unless it is empty, and the URLs among its words for its links, and no doc text waits
behind it. -/
theorem doc_round_trip {scopes : ScopeList} {ts comment between rest : List Text} {a b indent line : Text}
    (hts : ∀ t ∈ ts, IsWritable t) (hcomment : Writes ts comment)
    (hindent : ∀ c ∈ indent, isBlank c ∧ c ≠ '\n') (ha : EndsLine a)
    (hb : lines b = between ++ line :: rest)
    (hout : (State.afterLines scopes (lines a)).comment = .outside)
    (hlevel : (State.afterLines scopes (lines a)).atMemberLevel = true)
    (hbetween : ∀ l ∈ between, Line.IsInert (trim l))
    (hcode : Line.IsCode (trim line)) (hann : ¬ Line.IsAnnotations (trim line))
    (hkept : Line.isKept (trim line) scopes (State.afterLines scopes (lines a)).context = true) :
    let source := a ++ unlines (comment.map (indent ++ ·)) ++ b
    let number := (lines a).length + comment.length + between.length + 1
    let text := trim (join ['\n'] ts)
    ∃ d ∈ (ofSource scopes source).declarations, d.lineNumber = number ∧ d.signature = trim line ∧
      d.docComment = (if text = [] then none else some text) ∧
      d.links = ((words text).map (dropAround isAroundLink)).filter isUrl ∧
      (State.afterLines scopes ((lines source).take number)).pendingDoc = [] := by
  intro source number text
  obtain ⟨block, hlines, hblock⟩ := lines_commented (b := b) hcomment hts hindent ha
  have hlength : block.length = comment.length := by simpa using congrArg List.length hblock
  have hnumber : 1 + (lines a ++ block ++ between).length = number := by
    simp only [List.length_append, hlength, number]
    omega
  have hsource : lines source = (lines a ++ block ++ between) ++ line :: rest := by
    rw [hlines, hb, List.append_assoc _ between]
  generalize hs : State.afterLines scopes (lines a) = s at hout hlevel hkept
  have hbefore : State.afterLines scopes (lines a ++ block ++ between) =
      { s with pendingDoc := texts comment } := by
    have hsame : (block ++ between).map trim = (comment ++ between).map trim := by
      rw [List.map_append, List.map_append, hblock]
    rw [List.append_assoc, afterLines_append, hs, (run_congr hsame scopes s _).1]
    exact after_writes hcomment hts hout hlevel hbetween
  have hreads : Reads scopes number { s with pendingDoc := texts comment } (trim line) _ _ :=
    .declared hout hcode hlevel hann hkept
  obtain ⟨hdoc, hlinks⟩ := docComment_declare scopes number s (trim line) hcomment hts
  refine ⟨_, mem_declarations_iff.2 ⟨_, line, rest, hsource, ?_⟩, rfl, rfl, hdoc, hlinks, ?_⟩
  · change ((State.afterLines scopes (lines a ++ block ++ between)).step _ _ _).2 = _
    rw [hbefore, hnumber, hreads.step_eq]
  · have htake : (lines source).take number = (lines a ++ block ++ between) ++ [line] := by
      rw [hsource, ← hnumber, Nat.add_comm, List.take_length_add_append]
      rfl
    rw [htake, afterLines_append, hbefore, hnumber]
    change (State.step _ scopes number line).1.pendingDoc = []
    rw [hreads.step_eq]
    rfl

/-- Text with stars, slashes and an empty line, and links between punctuation; below it an empty line, a line
comment and an annotation. -/
theorem doc_round_trip_links :
    let scopes : ScopeList := ⟨["public".toList]⟩
    let ts := ["Sums a*b / c.".toList, [], "See (https://a.io), <http://b.io/>.".toList]
    let comment := "/**".toList :: (ts.map starred ++ [" */".toList])
    let a := "public class A \x7b\n".toList
    let b := "\n// note\n@IsTest\n  public void f() \x7b\x7d\n\x7d".toList
    let source := a ++ unlines (comment.map ("  ".toList ++ ·)) ++ b
    (∀ t ∈ ts, IsWritable t) ∧
      ∃ d ∈ (ofSource scopes source).declarations, d.lineNumber = 10 ∧
        d.docComment = some "Sums a*b / c.\n\nSee (https://a.io), <http://b.io/>.".toList ∧
        d.links = ["https://a.io".toList, "http://b.io/".toList] ∧
        (State.afterLines scopes ((lines source).take 10)).pendingDoc = [] := by
  intro scopes ts comment a b source
  have hts : ∀ t ∈ ts, IsWritable t := by
    intro t ht
    simp only [ts, List.mem_cons, List.not_mem_nil, or_false] at ht
    rcases ht with rfl | rfl | rfl <;> constructor <;> decide +kernel
  have hindent : ∀ c ∈ "  ".toList, isBlank c ∧ c ≠ '\n' := by
    intro c hc
    obtain rfl : c = ' ' := by simpa using hc
    decide
  have hb : lines b = [[], "// note".toList, "@IsTest".toList] ++
      "  public void f() \x7b\x7d".toList :: ["\x7d".toList] := by decide +kernel
  have hbefore : State.afterLines scopes (lines a) =
      { depth := 1, openTypes := [⟨⟨['A'], false⟩, 1, true⟩] } := by decide +kernel
  obtain ⟨d, hd, hnumber, -, hdoc, hlinks, hpending⟩ :=
    @doc_round_trip scopes ts comment _ _ a b "  ".toList _ hts (.block ts) hindent
      (.inr (by decide +kernel)) hb (by rw [hbefore]) (by rw [hbefore]; rfl) (by decide +kernel)
      (by decide +kernel) (by decide +kernel) (by rw [hbefore]; decide +kernel)
  have htext : trim (join ['\n'] ts) = "Sums a*b / c.\n\nSee (https://a.io), <http://b.io/>.".toList := by
    decide +kernel
  rw [htext] at hdoc hlinks
  refine ⟨hts, d, hd, hnumber, hdoc, ?_, hpending⟩
  rw [hlinks]
  decide +kernel

end Outline

end ApexOutline
