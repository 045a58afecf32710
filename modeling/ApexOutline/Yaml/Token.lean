import ApexOutline.Yaml.Scalar
/-!
# YAML tokens

A document is cut into tokens. Besides what is written there are tokens for where a block collection
starts and ends, which is told by indentation, and for a key, which is only known to be one when its
colon is found: a place where a key may start is remembered, and the token is put in there later.
-/

namespace ApexOutline.Yaml

open Text

/-- A token; anchors are known by a `Ref`. -/
inductive Token (Ref : Type) where
  | streamEnd
  | versionDirective (major minor : Nat)
  | tagDirective (handle start : Text)
  | documentStart
  | documentEnd
  | blockSequenceStart
  | blockMappingStart
  | blockEnd
  | flowSequenceStart
  | flowSequenceEnd
  | flowMappingStart
  | flowMappingEnd
  | blockEntry
  | flowEntry
  | key
  | value
  | alias (ref : Ref)
  | anchor (ref : Ref)
  | tag (handle suffix : Text)
  | scalar (style : Style) (text : Text)
  deriving DecidableEq, Repr

/-! ## Tags and directives -/

/-- Characters of the part of a tag after its handle. A tag in angle brackets may also hold brackets
and commas. -/
def isTagChar (verbatim : Bool) (c : Char) : Bool :=
  isName c || ";/?:@&=+$.%!~*'()".toList.contains c || (verbatim && ",[]".toList.contains c)

/-- A byte written as a percent sign and two hexadecimal digits. -/
def percentByte? : Text → Option (UInt8 × Text)
  | '%' :: a :: b :: r => do
    let high ← hexValue? a
    let low ← hexValue? b
    return ((high * 16 + low).toUInt8, r)
  | _ => none

/-- Reads `n` bytes with percent signs, each of which continues a character. -/
def percentTail : Nat → Text → Option (List UInt8 × Text)
  | 0, t => some ([], t)
  | n + 1, t => do
    let (b, r) ← percentByte? t
    if b.toNat / 64 != 2 then none
    let (bytes, rest) ← percentTail n r
    return (b :: bytes, rest)

/-- How many bytes continue a character that starts with a byte. -/
def continuations? (lead : UInt8) : Option Nat :=
  let n := lead.toNat
  if n < 0x80 then some 0
  else if n / 32 = 6 then some 1
  else if n / 16 = 14 then some 2
  else if n / 8 = 30 then some 3
  else none

/-- A character written as the bytes of its encoding, each with a percent sign. In the tag each byte
stands for itself, so that only ASCII characters have two spellings. -/
def percentChar? (t : Text) : Option (Text × Text) := do
  let (lead, r) ← percentByte? t
  let (bytes, rest) ← percentTail (← continuations? lead) r
  return ((lead :: bytes).map fun b => Char.ofNat b.toNat, rest)

/-- Reads the part of a tag after its handle. -/
def tagPart (verbatim : Bool) (t : Text) : Option (Text × Text) :=
  match t with
  | [] => some ([], [])
  | c :: r =>
    if !isTagChar verbatim c then some ([], t)
    else if c == '%' then
      match percentChar? t with
      | none => none
      | some (e, rest) =>
        if rest.length ≤ r.length then (tagPart verbatim rest).map fun x => (e ++ x.1, x.2)
        else none
    else (tagPart verbatim r).map fun x => (c :: x.1, x.2)
  termination_by t.length

/-- Reads a handle: an exclamation mark, a name, and possibly another mark. -/
def tagHandle : Text → Option (Text × Text)
  | '!' :: r =>
    let name := r.takeWhile isName
    match r.drop name.length with
    | '!' :: rest => some ('!' :: name ++ ['!'], rest)
    | rest => some ('!' :: name, rest)
  | _ => none

/-- Whether what was read as a handle is one by its second mark. -/
def isNamedHandle (handle : Text) : Bool :=
  1 < handle.length && handle.getLast? == some '!'

/-- A tag goes as far as its first null character. -/
def upToNull (t : Text) : Text :=
  t.takeWhile (· != '\x00')

/-- Reads a tag into handle and suffix; a tag in angle brackets and the single mark have no handle. -/
def readTag (t : Text) : Option (Text × Text × Text) :=
  match t with
  | '!' :: '<' :: r => do
    let (suffix, rest) ← tagPart true r
    if suffix.isEmpty then none
    let rest ← after? ['>'] rest
    return ([], upToNull suffix, rest)
  | _ => do
    let (handle, rest) ← tagHandle t
    let (part, rest) ← tagPart false rest
    if isNamedHandle handle then
      if part.isEmpty then none
      return (handle, upToNull part, rest)
    else
      let suffix := upToNull (handle.drop 1 ++ part)
      if suffix.isEmpty then return ([], ['!'], rest)
      return (['!'], suffix, rest)

/-- A version number of at most nine digits. -/
def versionNumber (t : Text) : Option (Nat × Text) :=
  let digits := t.takeWhile Char.isDigit
  if 9 < digits.length then none else (numberIn? 10 digits).map (·, t.drop digits.length)

/-- What a directive says after its name. -/
def directiveBody {Ref : Type} (name t : Text) : Option (Token Ref × Text) :=
  let start := t.dropWhile isSpace
  if name == "YAML".toList then do
    let (major, rest) ← versionNumber start
    let rest ← after? ['.'] rest
    let (minor, rest) ← versionNumber rest
    return (.versionDirective major minor, rest)
  else if name == "TAG".toList then do
    let (handle, rest) ← tagHandle start
    if handle != ['!'] && !isNamedHandle handle then none
    if !rest.head?.any isSpace then none
    let (tagStart, rest) ← tagPart true (rest.dropWhile isSpace)
    if tagStart.isEmpty || !atGap rest then none
    return (.tagDirective handle (upToNull tagStart), rest)
  else none

/-! ## The state of the scanner -/

/-- A place where a key may have started. -/
structure PossibleKey where
  /-- Whether nothing but a key may stand there. -/
  required : Bool
  /-- The number of tokens before it. -/
  number : Nat
  index : Nat
  line : Nat
  column : Nat
  deriving Repr

/-- The tokens so far and what decides about the next ones. -/
structure Scanner where
  cursor : Cursor
  tokens : Array (Token Text) := #[]
  /-- The column of the innermost block collection, one less than zero when there is none. -/
  indent : Int := -1
  /-- The columns of the collections around it. -/
  indents : List Int := []
  /-- Whether a key may start here. -/
  keyAllowed : Bool := true
  /-- The possible key at each level of brackets, innermost first. -/
  keys : List (Option PossibleKey) := [none]
  finished : Bool := false

namespace Scanner

/-- Whether the place is inside brackets. -/
def inFlow (s : Scanner) : Bool :=
  1 < s.keys.length

/-- Adds a token. -/
def push (s : Scanner) (token : Token Text) : Scanner :=
  { s with tokens := s.tokens.push token }

/-- Goes on to another place. -/
def moveTo (s : Scanner) (cursor : Cursor) : Scanner :=
  { s with cursor }

/-- Closes the collections that are indented deeper than `column`. -/
def unroll (s : Scanner) (column : Int) : Scanner :=
  if s.inFlow || s.indent ≤ column then s
  else
    let closed := (s.indent :: s.indents).takeWhile (column < ·)
    let left := (s.indent :: s.indents).drop closed.length
    { s with
      tokens := s.tokens ++ Array.replicate closed.length .blockEnd
      indent := left.headD (-1)
      indents := left.drop 1 }

/-- Opens a collection at `column`, unless the innermost one is there already, with its token put
before the token of the given number. -/
def roll (s : Scanner) (column number : Nat) (token : Token Text) : Scanner :=
  if s.inFlow || (column : Int) ≤ s.indent then s
  else
    { s with
      tokens := s.tokens.insertIdxIfInBounds number token
      indent := column
      indents := s.indent :: s.indents }

/-- Whether a place for a key is out of reach: keys stay on one line and are not long. -/
def isStale (cursor : Cursor) (key : PossibleKey) : Bool :=
  key.line < cursor.line || key.index + 1024 < cursor.index

/-- Forgets the places for keys that are out of reach. None of them may be required. -/
def dropStale? (s : Scanner) : Option Scanner :=
  if s.keys.any (·.any fun key => isStale s.cursor key && key.required) then none
  else some { s with keys := s.keys.map (·.filter (!isStale s.cursor ·)) }

/-- Forgets the place for a key at this level, which must not be required. -/
def dropKey? (s : Scanner) : Option Scanner :=
  if (s.keys.headD none).any (·.required) then none
  else some { s with keys := none :: s.keys.drop 1 }

/-- Remembers this place for a key, if one may start here. -/
def saveKey? (s : Scanner) : Option Scanner :=
  if !s.keyAllowed then some s
  else do
    let cleared ← s.dropKey?
    let key : PossibleKey :=
      { required := !s.inFlow && s.indent == s.cursor.column
        number := s.tokens.size
        index := s.cursor.index
        line := s.cursor.line
        column := s.cursor.column }
    return { cleared with keys := some key :: cleared.keys.drop 1 }

/-! ## Fetching tokens -/

/-- Where the spaces and the comment here end. A tab is not passed over where a key may start, and a
byte order mark only at the start of a line. -/
def gapEnd (s : Scanner) : Cursor :=
  let start := s.cursor
  let marked :=
    if start.column = 0 && start.rest.head? = some '\ufeff' then start.advance 1 else start
  let spaces := marked.skipWhile fun c => c == ' ' || (c == '\t' && (s.inFlow || !s.keyAllowed))
  if spaces.rest.head? = some '#' then spaces.skipWhile (!isBreak ·) else spaces

/-- Passes over what stands between tokens. Outside brackets, a key may start on a new line. -/
def toNextToken (s : Scanner) : Scanner :=
  let stop := s.gapEnd
  if stop.rest.head?.any isBreak then
    if stop.skipBreak.rest.length < s.cursor.rest.length then
      toNextToken { s with cursor := stop.skipBreak, keyAllowed := s.keyAllowed || !s.inFlow }
    else s
  else s.moveTo stop
  termination_by s.cursor.rest.length
  decreasing_by assumption

/-- Ends all collections and the possible key, as the start or end of a document does. -/
def endDocument? (s : Scanner) : Option Scanner := do
  let cleared ← (s.unroll (-1)).dropKey?
  return { cleared with keyAllowed := false }

/-- The end of the text. -/
def fetchEnd (s : Scanner) : Option Scanner := do
  let ended ← s.endDocument?
  return { ended.push .streamEnd with finished := true }

/-- A directive. -/
def fetchDirective (s : Scanner) : Option Scanner := do
  let ended ← s.endDocument?
  let inner := s.cursor.advance 1
  let name := inner.rest.takeWhile isName
  let after := inner.rest.drop name.length
  if name.isEmpty || !atGap after then none
  let (token, rest) ← directiveBody name after
  return (ended.push token).moveTo (← (inner.goTo rest).skipLineEnd?)

/-- A mark of a document. -/
def fetchDocumentMark (s : Scanner) (token : Token Text) : Option Scanner := do
  let ended ← s.endDocument?
  return (ended.push token).moveTo (s.cursor.advance 3)

/-- An opening bracket, which may start a key. -/
def fetchFlowStart (s : Scanner) (token : Token Text) : Option Scanner := do
  let saved ← s.saveKey?
  return { saved.push token with
    cursor := s.cursor.advance 1, keyAllowed := true, keys := none :: saved.keys }

/-- A closing bracket. -/
def fetchFlowEnd (s : Scanner) (token : Token Text) : Option Scanner := do
  let cleared ← s.dropKey?
  return { cleared.push token with
    cursor := s.cursor.advance 1, keyAllowed := false
    keys := if s.inFlow then cleared.keys.drop 1 else cleared.keys }

/-- A comma between brackets. -/
def fetchFlowEntry (s : Scanner) : Option Scanner := do
  let cleared ← s.dropKey?
  return { cleared.push .flowEntry with cursor := s.cursor.advance 1, keyAllowed := true }

/-- The dash of a block sequence. -/
def fetchBlockEntry (s : Scanner) : Option Scanner := do
  if !s.inFlow && !s.keyAllowed then none
  let cleared ← (s.roll s.cursor.column s.tokens.size .blockSequenceStart).dropKey?
  return { cleared.push .blockEntry with cursor := s.cursor.advance 1, keyAllowed := true }

/-- The question mark of a key. -/
def fetchKey (s : Scanner) : Option Scanner := do
  if !s.inFlow && !s.keyAllowed then none
  let cleared ← (s.roll s.cursor.column s.tokens.size .blockMappingStart).dropKey?
  return { cleared.push .key with cursor := s.cursor.advance 1, keyAllowed := !s.inFlow }

/-- The colon of a value. When a key may have started on this line, it did. -/
def fetchValue (s : Scanner) : Option Scanner := do
  let next := s.cursor.advance 1
  match s.keys.headD none with
  | some key =>
    let keyed := { s with tokens := s.tokens.insertIdxIfInBounds key.number .key }
    let rolled := keyed.roll key.column key.number .blockMappingStart
    return { rolled.push .value with
      cursor := next, keyAllowed := false, keys := none :: s.keys.drop 1 }
  | none =>
    if !s.inFlow && !s.keyAllowed then none
    let rolled := s.roll s.cursor.column s.tokens.size .blockMappingStart
    return { rolled.push .value with cursor := next, keyAllowed := !s.inFlow }

/-- Whether an anchor may end here. -/
def endsAnchor (t : Text) : Bool :=
  atGap t || t.head?.any ("?:,]\x7d%@\x60".toList.contains ·)

/-- An anchor or an alias. -/
def fetchAnchor (s : Scanner) (token : Text → Token Text) : Option Scanner := do
  let saved ← s.saveKey?
  let inner := s.cursor.advance 1
  let name := inner.rest.takeWhile isName
  let stop := inner.advance name.length
  if name.isEmpty || !endsAnchor stop.rest then none
  return { saved.push (token name) with cursor := stop, keyAllowed := false }

/-- A tag. -/
def fetchTag (s : Scanner) : Option Scanner := do
  let saved ← s.saveKey?
  let (handle, suffix, rest) ← readTag s.cursor.rest
  if !atGap rest && !(s.inFlow && rest.head? = some ',') then none
  return { saved.push (.tag handle suffix) with cursor := s.cursor.goTo rest, keyAllowed := false }

/-- A block scalar, after which a key may start. -/
def fetchBlockScalar (s : Scanner) (style : Style) : Option Scanner := do
  let cleared ← s.dropKey?
  let (text, stop) ← readBlock style s.indent (s.cursor.advance 1)
  return { cleared.push (.scalar style text) with cursor := stop, keyAllowed := true }

/-- A quoted scalar. -/
def fetchQuoted (s : Scanner) (style : Style) : Option Scanner := do
  let saved ← s.saveKey?
  let (text, stop) ← readQuoted style [] (s.cursor.advance 1)
  return { saved.push (.scalar style text) with cursor := stop, keyAllowed := false }

/-- A plain scalar. A key may start after it when its line has ended. -/
def fetchPlain (s : Scanner) : Option Scanner := do
  let saved ← s.saveKey?
  let plain ← readPlain s.inFlow (s.indent + 1).toNat [] {} s.cursor
  return { saved.push (.scalar .plain plain.text) with
    cursor := plain.stop, keyAllowed := plain.lineEnded }

/-- Whether a plain scalar may start here. -/
def startsPlain (flow : Bool) : Text → Bool
  | [] => false
  | c :: r =>
    (!atGap (c :: r) && !"-?:,[]\x7b\x7d#&*!|>'\"%@\x60".toList.contains c) ||
      (c == '-' && !r.head?.any isSpace) ||
      (!flow && (c == '?' || c == ':') && !atGap r)

/-- Fetches the token that starts here. -/
def fetchHere (s : Scanner) : Option Scanner :=
  let flow := s.inFlow
  match s.cursor.rest with
  | [] => s.fetchEnd
  | c :: r =>
    if s.cursor.column = 0 && c == '%' then s.fetchDirective
    else if s.cursor.atDocumentMark '-' then s.fetchDocumentMark .documentStart
    else if s.cursor.atDocumentMark '.' then s.fetchDocumentMark .documentEnd
    else if c == '[' then s.fetchFlowStart .flowSequenceStart
    else if c == '{' then s.fetchFlowStart .flowMappingStart
    else if c == ']' then s.fetchFlowEnd .flowSequenceEnd
    else if c == '}' then s.fetchFlowEnd .flowMappingEnd
    else if c == ',' then s.fetchFlowEntry
    else if c == '-' && atGap r then s.fetchBlockEntry
    else if c == '?' && (flow || atGap r) then s.fetchKey
    else if c == ':' && (flow || atGap r) then s.fetchValue
    else if c == '*' then s.fetchAnchor .alias
    else if c == '&' then s.fetchAnchor .anchor
    else if c == '!' then s.fetchTag
    else if c == '|' && !flow then s.fetchBlockScalar .literal
    else if c == '>' && !flow then s.fetchBlockScalar .folded
    else if c == '\'' then s.fetchQuoted .single
    else if c == '"' then s.fetchQuoted .double
    else if startsPlain flow (c :: r) then s.fetchPlain
    else none

/-- Fetches the next token. -/
def fetch? (s : Scanner) : Option Scanner := do
  let here ← s.toNextToken.dropStale?
  (here.unroll here.cursor.column).fetchHere

/-- Fetches all tokens. -/
def run? (s : Scanner) : Option (Array (Token Text)) :=
  match s.fetch? with
  | none => none
  | some next =>
    if next.finished then some next.tokens
    else if next.cursor.rest.length < s.cursor.rest.length then next.run?
    else none
  termination_by s.cursor.rest.length

end Scanner

/-- The tokens of a text. -/
def Token.scan? (source : Text) : Option (List (Token Text)) :=
  if source.all isAllowed then
    (Scanner.run? { cursor := { rest := source } }).map (·.toList)
  else none

end ApexOutline.Yaml
