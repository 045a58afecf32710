/-!
# Text

Text is a list of characters, so that reading a line is recursion on a list. This module holds what
every reader needs and no character table decides: pieces between separators, runs, lines, and
searching.
-/

namespace ApexOutline

/-- Text is a list of characters; positions count characters. -/
abbrev Text := List Char

namespace Text

/-- Drops the longest end whose characters all satisfy `p`. -/
def dropWhileEnd (p : Char → Bool) (t : Text) : Text :=
  (t.reverse.dropWhile p).reverse

/-- Drops characters that satisfy `p` from both ends. -/
def dropAround (p : Char → Bool) (t : Text) : Text :=
  dropWhileEnd p (t.dropWhile p)

/-- What follows `word` when the text starts with it. -/
def after? (word : Text) (t : Text) : Option Text :=
  if word.isPrefixOf t then some (t.drop word.length) else none

/-- What precedes `word` when the text ends with it. -/
def before? (word : Text) (t : Text) : Option Text :=
  if word.isSuffixOf t then some (t.take (t.length - word.length)) else none

/-- Whether `part` stands somewhere in the text. -/
def has (part : Text) : Text → Bool
  | [] => part.isEmpty
  | c :: r => part.isPrefixOf (c :: r) || has part r

/-- No piece between separators contains one. -/
theorem of_mem_splitOnP {p : Char → Bool} {t piece : Text} (h : piece ∈ t.splitOnP p) :
    ∀ c ∈ piece, p c = false := by
  induction t generalizing piece with
  | nil =>
    rw [List.splitOnP_nil, List.mem_singleton] at h
    simp [h]
  | cons d t ih =>
    rw [List.splitOnP_cons_eq_if_modifyHead] at h
    split at h
    · rcases List.mem_cons.1 h with rfl | h
      · simp
      · exact ih h
    · rename_i hd
      obtain ⟨first, rest, hsplit⟩ := List.exists_cons_of_ne_nil (List.splitOnP_ne_nil p t)
      rw [hsplit, List.modifyHead_cons] at h
      rw [hsplit] at ih
      rcases List.mem_cons.1 h with rfl | h
      · exact List.forall_mem_cons.2 ⟨by simpa using hd, ih List.mem_cons_self⟩
      · exact ih (List.mem_cons_of_mem first h)

/-- The maximal non-empty runs of characters that satisfy `p`, in order. -/
def runs (p : Char → Bool) (t : Text) : List Text :=
  (t.splitOnP (!p ·)).filter (!·.isEmpty)

/-- Drops one carriage return at the end. -/
def dropReturn (t : Text) : Text :=
  (before? ['\r'] t).getD t

/-- The lines of a text: a line feed ends a line, together with a carriage return right before it.
Text after the last line feed is a line of its own unless it is empty. -/
def lines (t : Text) : List Text :=
  let pieces := t.splitOnP (· == '\n')
  pieces.dropLast.map dropReturn ++ pieces.getLast?.toList.filter (!·.isEmpty)

/-- The pieces one after the other with `separator` between two of them. -/
def join (separator : Text) (pieces : List Text) : Text :=
  separator.intercalate pieces

/-- Lowercases the ASCII letters and leaves every other character alone. -/
def lowerAscii (t : Text) : Text :=
  t.map Char.toLower

/-- Whether two texts are equal up to the case of ASCII letters. -/
def eqIgnoringAsciiCase (s t : Text) : Bool :=
  lowerAscii s == lowerAscii t

end Text

end ApexOutline
