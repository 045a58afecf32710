import ApexOutline.Text.Basic
/-!
# UTF-8

Files hold bytes. Bytes are read as a sequence of characters and faults: a fault is a longest run of
bytes that starts like the encoding of a character and does not end as one. Reading strictly refuses
every fault; reading leniently puts the replacement character in its place.
-/

namespace ApexOutline.Text

/-- The content of a file. -/
abbrev Bytes := List UInt8

/-- The encoding of a text. -/
def encodeUtf8 (t : Text) : Bytes :=
  t.flatMap String.utf8EncodeChar

/-- Whether a byte continues a character. -/
def isContinuation (b : UInt8) : Bool :=
  0x80 ≤ b && b ≤ 0xbf

/-- Whether `b` may follow the byte `lead` that starts a character of three or four bytes. The
bounds leave out longer encodings than needed, surrogates, and code points that are too large. -/
def mayFollow (lead b : UInt8) : Bool :=
  if lead == 0xe0 then 0xa0 ≤ b && b ≤ 0xbf
  else if lead == 0xed then 0x80 ≤ b && b ≤ 0x9f
  else if lead == 0xf0 then 0x90 ≤ b && b ≤ 0xbf
  else if lead == 0xf4 then 0x80 ≤ b && b ≤ 0x8f
  else isContinuation b

/-- The character whose encoding has the given payloads, six bits from each byte after the first. -/
def ofPayloads (first : Nat) (rest : List UInt8) : Char :=
  Char.ofNat (rest.foldl (fun n b => n * 64 + (b.toNat - 0x80)) first)

/-- Reads a character of two bytes: the character or a fault, and how many bytes after `lead` it
takes. -/
def readTwo (lead : UInt8) : Bytes → Option Char × Nat
  | b :: _ =>
    if isContinuation b then (some (ofPayloads (lead.toNat - 0xc0) [b]), 1) else (none, 0)
  | [] => (none, 0)

/-- Reads a character of three bytes. -/
def readThree (lead : UInt8) : Bytes → Option Char × Nat
  | b :: c :: _ =>
    if mayFollow lead b then
      if isContinuation c then (some (ofPayloads (lead.toNat - 0xe0) [b, c]), 2) else (none, 1)
    else (none, 0)
  | [b] => if mayFollow lead b then (none, 1) else (none, 0)
  | [] => (none, 0)

/-- Reads a character of four bytes. -/
def readFour (lead : UInt8) : Bytes → Option Char × Nat
  | b :: c :: d :: _ =>
    if mayFollow lead b then
      if isContinuation c then
        if isContinuation d then (some (ofPayloads (lead.toNat - 0xf0) [b, c, d]), 3) else (none, 2)
      else (none, 1)
    else (none, 0)
  | [b, c] =>
    if mayFollow lead b then if isContinuation c then (none, 2) else (none, 1) else (none, 0)
  | [b] => if mayFollow lead b then (none, 1) else (none, 0)
  | [] => (none, 0)

/-- Reads the character or the fault that starts with `lead`, and how many bytes after it belong to
it. -/
def readUnit (lead : UInt8) (rest : Bytes) : Option Char × Nat :=
  if lead < 0x80 then (some (Char.ofNat lead.toNat), 0)
  else if 0xc2 ≤ lead && lead ≤ 0xdf then readTwo lead rest
  else if 0xe0 ≤ lead && lead ≤ 0xef then readThree lead rest
  else if 0xf0 ≤ lead && lead ≤ 0xf4 then readFour lead rest
  else (none, 0)

/-- The characters and faults of a sequence of bytes; a fault is `none`. -/
def units : Bytes → List (Option Char)
  | [] => []
  | lead :: rest =>
    let next := readUnit lead rest
    next.1 :: units (rest.drop next.2)
  termination_by bytes => bytes.length
  decreasing_by
    rw [List.length_drop, List.length_cons]
    exact Nat.lt_succ_of_le (Nat.sub_le ..)

/-- Reads bytes that must be well formed. -/
def decodeUtf8? (bytes : Bytes) : Option Text :=
  (units bytes).mapM id

/-- Reads any bytes, with U+FFFD for every fault. -/
def decodeLossy (bytes : Bytes) : Text :=
  (units bytes).map (·.getD '\ufffd')

end ApexOutline.Text
