import ApexOutline.Text.Digits
import ApexOutline.Yaml.Cursor
/-!
# YAML scalars

Plain, quoted and block scalars. Inside a scalar that runs over several lines, a single line break
is read as a space and further ones stand for themselves.
-/

namespace ApexOutline.Yaml

open Text

/-- How a scalar is written. -/
inductive Style where
  | plain
  | single
  | double
  | literal
  | folded
  deriving DecidableEq, Repr

/-! ## Gaps -/

/-- Spaces and line breaks between two parts of a scalar. -/
structure Gap where
  /-- The spaces, when there is no line break. -/
  spaces : Text := []
  /-- The first line break. -/
  first : Text := []
  /-- The line breaks after it. -/
  more : Text := []
  /-- Whether a line has ended. -/
  broken : Bool := false
  deriving Repr

/-- What a gap counts as. -/
def Gap.fold (gap : Gap) : Text :=
  if !gap.broken then gap.spaces
  else if gap.first != ['\n'] then gap.first ++ gap.more
  else if gap.more.isEmpty then [' ']
  else gap.more

/-- Reads a gap. A tab must not stand in the first `margin` columns of a further line. -/
def readGap (margin : Nat) (gap : Gap) (cur : Cursor) : Option (Gap × Cursor) :=
  match cur.rest with
  | [] => some (gap, cur)
  | c :: _ =>
    if isSpace c then
      if gap.broken && cur.column < margin && c == '\t' then none
      else
        let next := cur.advance 1
        if next.rest.length < cur.rest.length then
          readGap margin (if gap.broken then gap else { gap with spaces := gap.spaces ++ [c] }) next
        else none
    else if isBreak c then
      let (mark, next) := cur.readBreak
      if next.rest.length < cur.rest.length then
        readGap margin
          (if gap.broken then { gap with more := gap.more ++ mark }
           else { first := mark, broken := true }) next
      else none
    else some (gap, cur)
  termination_by cur.rest.length

/-! ## Plain scalars -/

/-- The longest part of a plain scalar without a gap, and what follows it. Inside brackets a colon
before an indicator is refused. -/
def plainPart (flow : Bool) : Text → Option (Text × Text)
  | [] => some ([], [])
  | c :: r =>
    if atGap (c :: r) then some ([], c :: r)
    else if flow && c == ':' && r.head?.any (",?[]\x7b\x7d".toList.contains ·) then none
    else if (c == ':' && atGap r) || (flow && ",[]\x7b\x7d".toList.contains c) then some ([], c :: r)
    else (plainPart flow r).map fun x => (c :: x.1, x.2)

/-- A plain scalar: its text, where it ends, and whether a line ended after its last part. -/
structure Plain where
  text : Text
  stop : Cursor
  lineEnded : Bool

/-- Reads the parts of a plain scalar after `text` and `gap`. Outside brackets every further line is
indented by `margin` columns. -/
def readPlain (flow : Bool) (margin : Nat) (text : Text) (gap : Gap) (cur : Cursor) :
    Option Plain :=
  if cur.atAnyDocumentMark || cur.rest.head? = some '#' then some ⟨text, cur, gap.broken⟩
  else
    match plainPart flow cur.rest with
    | none => none
    | some (part, rest) =>
      if part.isEmpty then some ⟨text, cur, gap.broken⟩
      else
        let text := text ++ gap.fold ++ part
        let stop := cur.goTo rest
        match readGap margin {} stop with
        | none => none
        | some (next, after) =>
          if after.rest.length = stop.rest.length then some ⟨text, stop, false⟩
          else if !flow && after.column < margin then some ⟨text, after, next.broken⟩
          else if after.rest.length < cur.rest.length then readPlain flow margin text next after
          else none
  termination_by cur.rest.length

/-! ## Quoted scalars -/

/-- A part of a scalar in single quotes without a gap, and what follows it. -/
def singlePart : Text → Text × Text
  | '\'' :: '\'' :: r => let x := singlePart r; ('\'' :: x.1, x.2)
  | c :: r =>
    if c == '\'' || atGap (c :: r) then ([], c :: r)
    else let x := singlePart r; (c :: x.1, x.2)
  | [] => ([], [])

/-- The escapes that stand for one character. -/
def simpleEscapes : List (Char × Char) :=
  [('0', '\x00'), ('a', '\x07'), ('b', '\x08'), ('t', '\t'), ('\t', '\t'), ('n', '\n'),
   ('v', '\x0b'), ('f', '\x0c'), ('r', '\r'), ('e', '\x1b'), (' ', ' '), ('"', '"'), ('/', '/'),
   ('\\', '\\'), ('N', '\x85'), ('_', '\xa0'), ('L', '\u2028'), ('P', '\u2029')]

/-- What stands after a backslash. -/
def escaped : Text → Option (Char × Text)
  | 'x' :: r => codePoint? 2 r
  | 'u' :: r => codePoint? 4 r
  | 'U' :: r => codePoint? 8 r
  | c :: r => (simpleEscapes.lookup c).map (·, r)
  | [] => none

/-- A part of a scalar in double quotes without a gap, and what follows it. It also ends before a
backslash at the end of a line. -/
def doublePart (t : Text) : Option (Text × Text) :=
  match t with
  | [] => some ([], [])
  | c :: r =>
    if c == '"' || atGap t then some ([], t)
    else if c == '\\' then
      if r.head?.any isBreak then some ([], t)
      else
        match escaped r with
        | none => none
        | some (e, rest) =>
          if rest.length ≤ r.length then (doublePart rest).map fun x => (e :: x.1, x.2) else none
    else (doublePart r).map fun x => (c :: x.1, x.2)
  termination_by t.length

/-- Reads a quoted scalar after its opening quote, where `text` has been read. -/
def readQuoted (style : Style) (text : Text) (cur : Cursor) : Option (Text × Cursor) :=
  let quote := if style = .single then '\'' else '"'
  if cur.atAnyDocumentMark then none
  else
    match if style = .single then some (singlePart cur.rest) else doublePart cur.rest with
    | none => none
    | some (part, rest) =>
      let stop := cur.goTo rest
      match rest with
      | [] => none
      | c :: _ =>
        if c == quote then some (text ++ part, stop.advance 1)
        else
          let start : Gap × Cursor :=
            if c == '\\' then ({ broken := true }, (stop.advance 1).skipBreak) else ({}, stop)
          match readGap 0 start.1 start.2 with
          | none => none
          | some (gap, after) =>
            if after.rest.length < cur.rest.length then
              readQuoted style (text ++ part ++ gap.fold) after
            else none
  termination_by cur.rest.length

/-! ## Block scalars -/

/-- What becomes of the line breaks at the end of a block scalar. -/
inductive Chomping where
  /-- All are dropped. -/
  | strip
  /-- The first one stays. -/
  | clip
  /-- All stay. -/
  | keep
  deriving DecidableEq, Repr

/-- The chomping that a character asks for. -/
def Chomping.ofChar? : Char → Option Chomping
  | '-' => some .strip
  | '+' => some .keep
  | _ => none

/-- An indentation of one to nine columns. -/
def indentation? (c : Char) : Option Nat :=
  if '1' ≤ c && c ≤ '9' then some (c.toNat - '0'.toNat) else none

/-- The marks after the indicator of a block scalar, in either order: chomping and indentation. -/
def blockMarks (t : Text) : Option (Chomping × Option Nat × Nat) :=
  let first := t.head?
  let second := (t.drop 1).head?
  match first.bind Chomping.ofChar? with
  | some chomping =>
    if second = some '0' then none
    else
      match second.bind indentation? with
      | some n => some (chomping, some n, 2)
      | none => some (chomping, none, 1)
  | none =>
    if first = some '0' then none
    else
      match first.bind indentation? with
      | none => some (.clip, none, 0)
      | some n =>
        match second.bind Chomping.ofChar? with
        | some chomping => some (chomping, some n, 2)
        | none => some (.clip, some n, 1)

/-- Passes over empty lines and the indentation of the next line: at most `indent` columns, or all
there are when it is not known. The result holds the line breaks and the widest indentation seen. -/
def readIndentation (indent : Option Nat) (breaks : Text) (widest : Nat) (cur : Cursor) :
    Option (Text × Nat × Cursor) :=
  let spaces := (cur.rest.takeWhile (· == ' ')).length
  let inner := cur.advance (match indent with
    | some n => min spaces (n - cur.column)
    | none => spaces)
  let widest := max widest inner.column
  if inner.rest.head? = some '\t' && indent.all (inner.column < ·) then none
  else if inner.rest.head?.any isBreak then
    let (mark, next) := inner.readBreak
    if next.rest.length < cur.rest.length then readIndentation indent (breaks ++ mark) widest next
    else none
  else some (breaks, widest, inner)
  termination_by cur.rest.length

/-- A block scalar as far as it is read. -/
structure Block where
  text : Text := []
  /-- The line break after the last line. -/
  leading : Text := []
  /-- The line breaks of the empty lines after it. -/
  trailing : Text := []
  /-- Whether the last line starts with a space. -/
  startsBlank : Bool := false

/-- Reads the lines of a block scalar, which are indented by `indent` columns. In a folded one, the
break between two lines that start with no space is a space. -/
def readBlockLines (folded : Bool) (indent : Nat) (block : Block) (cur : Cursor) :
    Option (Block × Cursor) :=
  if cur.column != indent || cur.rest.isEmpty then some (block, cur)
  else
    let blank := cur.rest.head?.any isSpace
    let joint :=
      if folded && block.leading == ['\n'] && !block.startsBlank && !blank then
        if block.trailing.isEmpty then [' '] else []
      else block.leading
    let content := cur.rest.takeWhile (!isBreak ·)
    let (mark, next) := (cur.advance content.length).readBreak
    match readIndentation (some indent) [] 0 next with
    | none => none
    | some (trailing, _, after) =>
      let block :=
        { text := block.text ++ joint ++ block.trailing ++ content
          leading := mark, trailing, startsBlank := blank }
      if after.rest.length < cur.rest.length then readBlockLines folded indent block after
      else none
  termination_by cur.rest.length

/-- Reads a block scalar after its indicator, inside a collection indented by `outer` columns, which
is one less than zero at the top. -/
def readBlock (style : Style) (outer : Int) (cur : Cursor) : Option (Text × Cursor) := do
  let (chomping, mark, length) ← blockMarks cur.rest
  let start ← (cur.advance length).skipLineEnd?
  let given := mark.map fun n => (max outer 0).toNat + n
  let (breaks, widest, first) ← readIndentation given [] 0 start
  let indent := given.getD (max widest (max (outer + 1).toNat 1))
  let (block, stop) ← readBlockLines (style = .folded) indent { trailing := breaks } first
  let tail :=
    match chomping with
    | .strip => []
    | .clip => block.leading
    | .keep => block.leading ++ block.trailing
  return (block.text ++ tail, stop)

end ApexOutline.Yaml
