import ApexOutline.Text.Basic
/-!
# Fixed-point text

A floating-point number written with a fixed number of decimal places. A binary number is a decimal
fraction with finitely many digits, so the exact value is rounded, and a half goes to the even
neighbour.
-/

namespace ApexOutline.Text

/-- A quotient rounded to the nearest integer, where a half goes to the even one. -/
def roundDiv (num den : Nat) : Nat :=
  let floor := num / den
  let twice := 2 * (num % den)
  if den < twice || (twice = den && floor % 2 = 1) then floor + 1 else floor

/-- The magnitude of a finite number as a quotient of two naturals. -/
def quotientOf (x : Float) : Nat × Nat :=
  let bits := x.toBits.toNat
  let unit := Nat.pow 2 52
  let exponent := bits / unit % 2048
  let mantissa := if exponent = 0 then bits % unit else unit + bits % unit
  let shift := max exponent 1
  (mantissa * Nat.pow 2 (shift - 1075), Nat.pow 2 (1075 - shift))

/-- The decimal digits of `units` with a point before the last `places` of them. -/
def pointed (places units : Nat) : Text :=
  let fraction := Nat.toDigits 10 (units % Nat.pow 10 places)
  Nat.toDigits 10 (units / Nat.pow 10 places) ++
    if places = 0 then [] else '.' :: (List.replicate (places - fraction.length) '0' ++ fraction)

/-- A finite number that is not negative, with a fixed number of decimal places. -/
def fixed (places : Nat) (x : Float) : Text :=
  let (num, den) := quotientOf x
  pointed places (roundDiv (num * Nat.pow 10 places) den)

end ApexOutline.Text
