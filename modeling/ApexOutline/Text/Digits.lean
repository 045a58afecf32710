import ApexOutline.Text.Basic
/-!
# Digits

Numbers written as digits, and the bound on counts, which fit into 64 bits.
-/

namespace ApexOutline.Text

/-- The value of a hexadecimal digit. -/
def hexValue? (c : Char) : Option Nat :=
  if c.isDigit then some (c.toNat - '0'.toNat)
  else if 'a' ≤ c && c ≤ 'f' then some (c.toNat - 'a'.toNat + 10)
  else if 'A' ≤ c && c ≤ 'F' then some (c.toNat - 'A'.toNat + 10)
  else none

/-- The number that the values of digits make in a base, the most significant first. -/
def ofDigits (base : Nat) (values : List Nat) : Nat :=
  values.foldl (fun n d => n * base + d) 0

/-- The number that a text of one or more digits writes, in a base of at most sixteen. -/
def numberIn? (base : Nat) (t : Text) : Option Nat := do
  let values ← t.mapM hexValue?
  if values.isEmpty || values.any (base ≤ ·) then none
  else some (ofDigits base values)

/-- A character given by so many hexadecimal digits of its code point, and what follows them. -/
def codePoint? (digits : Nat) (t : Text) : Option (Char × Text) := do
  let values ← (t.take digits).mapM hexValue?
  if values.length < digits then none
  let n := ofDigits 16 values
  if n.isValidChar then some (Char.ofNat n, t.drop digits) else none

/-- Counts are below two to the power of 64. -/
def countBound : Nat := 0x10000000000000000

/-- The count that a text of one or more digits writes. -/
def countIn? (base : Nat) (t : Text) : Option Nat :=
  (numberIn? base t).filter (· < countBound)

/-- A count in decimal digits. -/
def countText (n : Nat) : Text :=
  Nat.toDigits 10 n

end ApexOutline.Text
