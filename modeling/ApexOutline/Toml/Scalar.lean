import ApexOutline.Text.Digits
import ApexOutline.Toml.Node
/-!
# TOML scalars

Readers of strings, numbers and dates. A reader returns what it read and the rest of the text, or
nothing when the text is malformed.
-/

namespace ApexOutline.Toml

open Text

/-- A reader of values. -/
abbrev Reader (α : Type) := Text → Option (α × Text)

/-- Characters that separate on a line. -/
def isSpace (c : Char) : Bool :=
  c == ' ' || c == '\t'

/-- Characters allowed in a comment or a string: no control characters but the tab. -/
def isPrintable (c : Char) : Bool :=
  c == '\t' || (0x20 ≤ c.toNat && c.toNat != 0x7f)

/-- What follows the line break that opens a text. -/
def afterNewline? : Text → Option Text
  | '\n' :: r => some r
  | '\r' :: '\n' :: r => some r
  | _ => none

/-! ## Strings -/

/-- What stands after a backslash. -/
def escaped : Reader Char
  | 'b' :: r => some ('\x08', r)
  | 'f' :: r => some ('\x0c', r)
  | 'n' :: r => some ('\n', r)
  | 'r' :: r => some ('\r', r)
  | 't' :: r => some ('\t', r)
  | '"' :: r => some ('"', r)
  | '\\' :: r => some ('\\', r)
  | 'u' :: r => codePoint? 4 r
  | 'U' :: r => codePoint? 8 r
  | _ => none

/-- The rest of a string in double quotes. -/
def basicRest (t : Text) : Option (Text × Text) :=
  match t with
  | [] => none
  | c :: r =>
    if c = '"' then some ([], r)
    else if c = '\\' then
      match escaped r with
      | none => none
      | some (e, rest) =>
        if rest.length ≤ r.length then (basicRest rest).map fun x => (e :: x.1, x.2) else none
    else if isPrintable c then (basicRest r).map fun x => (c :: x.1, x.2)
    else none
  termination_by t.length

/-- The rest of a string in single quotes, which has no escapes. -/
def literalRest (t : Text) : Option (Text × Text) :=
  match (t.span fun c => c != '\'' && isPrintable c) with
  | (body, '\'' :: r) => some (body, r)
  | _ => none

/-- The end of a string in triple quotes, at a run of three or more: up to two quotes may stand
before the three that close it. -/
def closingQuotes (quote : Char) (t : Text) : Text × Text :=
  let count := min 5 (t.takeWhile (· == quote)).length
  (t.take (count - 3), t.drop count)

/-- Drops spaces and line breaks. -/
def dropSpacesAndBreaks : Text → Text
  | '\r' :: '\n' :: r => dropSpacesAndBreaks r
  | c :: r => if isSpace c || c == '\n' then dropSpacesAndBreaks r else c :: r
  | [] => []

/-- What follows a backslash at the end of a line: the line breaks and spaces after it are dropped. -/
def afterLineEnd? (t : Text) : Option Text :=
  (afterNewline? (t.dropWhile isSpace)).map dropSpacesAndBreaks

/-- Whether a text starts with three times the same quote. -/
def startsWithTriple (quote : Char) (t : Text) : Bool :=
  [quote, quote, quote].isPrefixOf t

/-- The rest of a string in three double quotes. A line break is read as a line feed. -/
def multilineBasicRest (t : Text) : Option (Text × Text) :=
  if startsWithTriple '"' t then some (closingQuotes '"' t)
  else
    match t with
    | [] => none
    | '\r' :: '\n' :: r => (multilineBasicRest r).map fun x => ('\n' :: x.1, x.2)
    | c :: r =>
      if c = '\\' then
        match afterLineEnd? r, escaped r with
        | some rest, _ =>
          if rest.length ≤ r.length then multilineBasicRest rest else none
        | none, some (e, rest) =>
          if rest.length ≤ r.length then
            (multilineBasicRest rest).map fun x => (e :: x.1, x.2)
          else none
        | none, none => none
      else if c = '\n' || isPrintable c then
        (multilineBasicRest r).map fun x => (c :: x.1, x.2)
      else none
  termination_by t.length

/-- The rest of a string in three single quotes. A line break is read as a line feed. -/
def multilineLiteralRest (t : Text) : Option (Text × Text) :=
  if startsWithTriple '\'' t then some (closingQuotes '\'' t)
  else
    match t with
    | [] => none
    | '\r' :: '\n' :: r => (multilineLiteralRest r).map fun x => ('\n' :: x.1, x.2)
    | c :: r =>
      if c = '\n' || isPrintable c then
        (multilineLiteralRest r).map fun x => (c :: x.1, x.2)
      else none

/-- A line break right after the opening quotes is not part of a string. -/
def dropFirstNewline (t : Text) : Text :=
  (afterNewline? t).getD t

/-- A string of any of the four kinds. -/
def quoted : Reader Text
  | '"' :: '"' :: '"' :: r => multilineBasicRest (dropFirstNewline r)
  | '\'' :: '\'' :: '\'' :: r => multilineLiteralRest (dropFirstNewline r)
  | '"' :: r => basicRest r
  | '\'' :: r => literalRest r
  | _ => none

/-! ## Numbers -/

/-- Digits after the first, with single underscores between them. -/
def moreDigits (isDigit : Char → Bool) : Text → Option (Text × Text)
  | '_' :: c :: r =>
    if isDigit c then (moreDigits isDigit r).map fun x => (c :: x.1, x.2) else none
  | ['_'] => none
  | c :: r =>
    if isDigit c then (moreDigits isDigit r).map fun x => (c :: x.1, x.2) else some ([], c :: r)
  | [] => some ([], [])

/-- Digits with single underscores between them. -/
def digits (isDigit : Char → Bool) : Reader Text
  | c :: r =>
    if isDigit c then (moreDigits isDigit r).map fun x => (c :: x.1, x.2) else none
  | [] => none

/-- A sign, true for minus. -/
def sign : Text → Bool × Text
  | '-' :: r => (true, r)
  | '+' :: r => (false, r)
  | t => (false, t)

/-- Decimal digits without a leading zero. -/
def wholeDigits : Reader Text
  | '0' :: r => some (['0'], r)
  | t => digits Char.isDigit t

/-- The number that digits spell in a base. -/
def valueIn (base : Nat) (ds : Text) : Nat :=
  ofDigits base (ds.map fun d => (hexValue? d).getD 0)

/-- An integer that fits 64 bits with sign. -/
def fits (n : Int) : Option Node :=
  if -0x8000000000000000 ≤ n && n < 0x8000000000000000 then some (.integer n) else none

/-- A number in another base after its mark. -/
def based (base : Nat) (isDigit : Char → Bool) : Reader Node := fun t => do
  let (ds, rest) ← digits isDigit t
  return (← fits (valueIn base ds), rest)

/-- Whether `mantissa * 10 ^ exponent` is beyond the range of floating-point numbers. -/
def overflows (mantissa : Nat) (exponent : Int) : Bool :=
  let length : Int := (Nat.toDigits 10 mantissa).length
  let bound := Nat.pow 2 1024 - Nat.pow 2 970
  if mantissa = 0 || length + exponent ≤ 308 then false
  else if 309 < length + exponent then true
  else if 0 ≤ exponent then bound ≤ mantissa * Nat.pow 10 exponent.toNat
  else bound * Nat.pow 10 (-exponent).toNat ≤ mantissa

/-- An exponent, zero when there is none. -/
def exponent : Reader Int
  | c :: r =>
    if c == 'e' || c == 'E' then do
      let (negative, t) := sign r
      let (ds, rest) ← digits Char.isDigit t
      let n : Int := valueIn 10 ds
      return (if negative then -n else n, rest)
    else some (0, c :: r)
  | [] => some (0, [])

/-- The fraction and the exponent of a number whose whole digits have been read. It is an integer
when it has neither. -/
def afterWhole (negative : Bool) (whole : Text) (t : Text) : Option (Node × Text) := do
  let (fraction, afterFraction) ←
    match t with
    | '.' :: r => digits Char.isDigit r
    | _ => some ([], t)
  let (e, rest) ← exponent afterFraction
  if rest.length = t.length then
    let n : Int := valueIn 10 whole
    return (← fits (if negative then -n else n), rest)
  else if !negative && overflows (valueIn 10 (whole ++ fraction)) (e - fraction.length) then none
  else return (.other, rest)

/-- The words for infinity and for what is no number. -/
def specialNumber (t : Text) : Option (Node × Text) :=
  match after? "inf".toList t, after? "nan".toList t with
  | some r, _ => some (.other, r)
  | _, some r => some (.other, r)
  | _, _ => none

/-- A number in any of its forms. -/
def number : Reader Node := fun t =>
  match t with
  | '0' :: 'x' :: r => based 16 (fun c => (hexValue? c).isSome) r
  | '0' :: 'o' :: r => based 8 (fun c => '0' ≤ c && c ≤ '7') r
  | '0' :: 'b' :: r => based 2 (fun c => c == '0' || c == '1') r
  | _ =>
    let (negative, unsigned) := sign t
    match wholeDigits unsigned with
    | some (whole, rest) => afterWhole negative whole rest
    | none => specialNumber unsigned

/-! ## Dates -/

/-- Exactly `n` decimal digits. -/
def fixedDigits (n : Nat) : Reader Nat := fun t =>
  let ds := t.take n
  if ds.length = n && ds.all Char.isDigit then some (valueIn 10 ds, t.drop n) else none

/-- Two digits in a range. -/
def twoDigits (low high : Nat) : Reader Nat := fun t => do
  let (n, rest) ← fixedDigits 2 t
  if low ≤ n && n ≤ high then some (n, rest) else none

/-- A given character. -/
def exactly (c : Char) : Reader Unit
  | d :: r => if d = c then some ((), r) else none
  | [] => none

/-- The number of days of a month. -/
def daysIn (year month : Nat) : Nat :=
  if month = 2 then
    if year % 4 = 0 && (year % 100 ≠ 0 || year % 400 = 0) then 29 else 28
  else if [4, 6, 9, 11].contains month then 30
  else 31

/-- A calendar date. -/
def date : Reader Unit := fun t => do
  let (year, t) ← fixedDigits 4 t
  let (_, t) ← exactly '-' t
  let (month, t) ← twoDigits 1 12 t
  let (_, t) ← exactly '-' t
  let (_, t) ← twoDigits 1 (daysIn year month) t
  return ((), t)

/-- A fraction of a second, when there is one. -/
def secondFraction : Reader Unit
  | '.' :: c :: r => if c.isDigit then some ((), r.dropWhile Char.isDigit) else none
  | ['.'] => none
  | t => some ((), t)

/-- A time of day. -/
def time : Reader Unit := fun t => do
  let (_, t) ← twoDigits 0 23 t
  let (_, t) ← exactly ':' t
  let (_, t) ← twoDigits 0 59 t
  let (_, t) ← exactly ':' t
  let (_, t) ← twoDigits 0 60 t
  secondFraction t

/-- The distance from universal time, when there is one. -/
def offset : Reader Unit
  | c :: r =>
    if c == 'Z' || c == 'z' then some ((), r)
    else if c == '+' || c == '-' then do
      let (_, t) ← twoDigits 0 23 r
      let (_, t) ← exactly ':' t
      let (_, t) ← twoDigits 0 59 t
      return ((), t)
    else some ((), c :: r)
  | [] => some ((), [])

/-- Whether a text starts with a date. -/
def startsWithDate (t : Text) : Bool :=
  match fixedDigits 4 t with
  | some (_, '-' :: _) => true
  | _ => false

/-- Whether a text starts with a time. -/
def startsWithTime (t : Text) : Bool :=
  match fixedDigits 2 t with
  | some (_, ':' :: _) => true
  | _ => false

/-- A date, a time, or both; a space may stand between them. -/
def moment : Reader Node := fun t => do
  if startsWithTime t then
    let (_, t) ← time t
    return (.other, t)
  else
    let (_, t) ← date t
    match t with
    | c :: r =>
      if (c == 'T' || c == 't' || c == ' ') && startsWithTime r then
        let (_, t) ← time r
        let (_, t) ← offset t
        return (.other, t)
      else return (.other, t)
    | [] => return (.other, t)

/-- A string, a number, a date or a truth value. -/
def scalar : Reader Node := fun t =>
  match t with
  | '"' :: _ => (quoted t).map fun x => (.text x.1, x.2)
  | '\'' :: _ => (quoted t).map fun x => (.text x.1, x.2)
  | 't' :: _ => (after? "true".toList t).map fun r => (.boolean true, r)
  | 'f' :: _ => (after? "false".toList t).map fun r => (.boolean false, r)
  | _ => if startsWithDate t || startsWithTime t then moment t else number t

end ApexOutline.Toml
