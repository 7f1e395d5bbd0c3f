import Shroud.Decimal.Binary64

/-!
# Rounding a double to decimal places

The exact value of the double is rounded to a multiple of a power of ten, ties to the even multiple, and
the double nearest to that multiple is the result. Infinities, what is no number, and values without a
fractional part stay as they are.
-/

namespace Shroud.Decimal

/-- `num / den` to the nearest integer, ties to the even one. -/
def roundHalfEven (num den : Nat) : Nat :=
  let d := num / den
  let r := num % den
  if 2 * r < den then d
  else if den < 2 * r then d + 1
  else d + d % 2

/-- A double rounded to `places` decimal places. -/
def roundTo (places : Nat) (x : Float) : Float :=
  match Binary64.ofBits x.toBits with
  | .finite negative m q =>
    if 0 ≤ q then x
    else
      let (num, den) := Binary64.fraction m q
      let n := roundHalfEven (num * Nat.pow 10 places) den
      let y := Float.ofScientific n true places
      if negative then -y else y
  | _ => x

end Shroud.Decimal
