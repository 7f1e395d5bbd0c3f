/-!
# Binary floating-point numbers, exactly

A double is read off its 64 bits as a sign and a dyadic number `m * 2 ^ q`, so that what is asked of it
(its integral part, its decimal text, its rounding) is a question about natural numbers.
-/

namespace Shroud

/-- A double: not a number, infinite, or `± m * 2 ^ q`. -/
inductive Binary64 where
  | nan
  | infinite (negative : Bool)
  | finite (negative : Bool) (m : Nat) (q : Int)
  deriving DecidableEq, Repr

namespace Binary64

/-- The double with the given bits: one for the sign, eleven for the exponent, fifty-two for the
fraction. -/
def ofBits (bits : UInt64) : Binary64 :=
  let n := bits.toNat
  let negative := n / Nat.pow 2 63 == 1
  let exponent : Nat := n / Nat.pow 2 52 % Nat.pow 2 11
  let fraction : Nat := n % Nat.pow 2 52
  if exponent = 2047 then
    if fraction = 0 then infinite negative else nan
  else if exponent = 0 then finite negative fraction (-1074)
  else finite negative (Nat.pow 2 52 + fraction) (exponent - 1075)

/-- `m * 2 ^ q` as a fraction. -/
def fraction (m : Nat) (q : Int) : Nat × Nat :=
  (m * Nat.pow 2 q.toNat, Nat.pow 2 (-q).toNat)

/-- The double nearest to an integer, the even one of two; there is none for integers that are too large. -/
def ofInt? (n : Int) : Option Binary64 :=
  let excess := n.natAbs.log2 + 1 - 53
  let unit := Nat.pow 2 excess
  let m := n.natAbs / unit
  let twice := 2 * (n.natAbs % unit)
  let m := if twice < unit then m else if unit < twice then m + 1 else m + m % 2
  if m * unit < Nat.pow 2 1024 then some (finite (n < 0) m excess) else none

/-- The integral part of a finite double, toward zero. -/
def truncate? : Binary64 → Option Int
  | finite negative m q =>
    let (num, den) := fraction m q
    some (if negative then -((num / den : Nat) : Int) else (num / den : Nat))
  | _ => none

/-- The integer that a double is equal to. -/
def integer? : Binary64 → Option Int
  | finite negative m q =>
    let (num, den) := fraction m q
    if num % den = 0 then some (if negative then -((num / den : Nat) : Int) else (num / den : Nat))
    else none
  | _ => none

/-- Whether a double is zero, of either sign. -/
def isZero : Binary64 → Bool
  | finite _ m _ => m == 0
  | _ => false

end Binary64

end Shroud
