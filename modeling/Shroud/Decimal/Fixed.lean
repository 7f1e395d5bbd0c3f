import Shroud.Decimal.Rounded
import Shroud.Decimal.Shortest

/-!
# Fractions to a number of digits

A fraction is written to as many digits as are asked for. Its exact value is rounded, ties to the even digit.

* `Decimal.fixed` writes so many digits behind the point.
* `Decimal.scientific` writes one digit before the point, so many behind it, and the power of ten.
* `Decimal.general` writes so many digits in all, without closing zeros, in one of the two ways: with the power of
  ten where that is less than minus four or no less than the number of digits.

A point without digits behind it is only written if it is asked for, and then closing zeros stay, too.
-/

namespace Shroud.Decimal

/-- What stands behind a whole number. -/
def afterPoint (always : Bool) (digits : List Char) : List Char :=
  if digits.isEmpty && !always then [] else '.' :: digits

/-- **A fraction to so many places.** -/
def fixed (places : Nat) (always : Bool) (num den : Nat) : List Char :=
  let digits := Nat.toDigits 10 (roundHalfEven (num * Nat.pow 10 places) den)
  let digits := List.replicate (places + 1 - digits.length) '0' ++ digits
  let whole := digits.length - places
  digits.take whole ++ afterPoint always (digits.drop whole)

/-- The first digits of a fraction, rounded, and the power of ten that the first of them counts. -/
def leading (count num den : Nat) : List Char × Int :=
  if num = 0 then (List.replicate count '0', 0)
  else
    let power := magnitude num den - 1
    let shift := (count : Int) - 1 - power
    let n := roundHalfEven (num * Nat.pow 10 shift.toNat) (den * Nat.pow 10 (-shift).toNat)
    -- a row of nines is rounded up to a number of one digit more
    if n = Nat.pow 10 count then ('1' :: List.replicate (count - 1) '0', power + 1)
    else (Nat.toDigits 10 n, power)

/-- Digits with the power of ten of the first of them, which takes two digits at least. -/
def withPower (always : Bool) (digits : List Char) (power : Int) : List Char :=
  let shown := Nat.toDigits 10 power.natAbs
  digits.take 1 ++ afterPoint always (digits.drop 1)
    ++ 'e' :: (if power < 0 then '-' else '+') :: (List.replicate (2 - shown.length) '0' ++ shown)

/-- **A fraction with a power of ten.** -/
def scientific (places : Nat) (always : Bool) (num den : Nat) : List Char :=
  let (digits, power) := leading (places + 1) num den
  withPower always digits power

/-- **A fraction in the way that suits its size.** -/
def general (count : Nat) (always : Bool) (num den : Nat) : List Char :=
  let (digits, power) := leading count num den
  let digits := if always then digits else (digits.reverse.dropWhile (· == '0')).reverse
  if -4 ≤ power ∧ power < count then
    if power < 0 then '0' :: afterPoint always (List.replicate (-power - 1).toNat '0' ++ digits)
    else
      let whole := power.toNat + 1
      digits.take whole ++ List.replicate (whole - digits.length) '0' ++ afterPoint always (digits.drop whole)
  else withPower always digits power

end Shroud.Decimal
