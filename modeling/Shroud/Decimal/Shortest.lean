import Shroud.Decimal.Binary64

/-!
# The shortest decimal text of a double

The digits of a double are the fewest that read back as the same double, and among those the nearest
to its value. They are found by exact arithmetic: the numbers that read back as `m * 2 ^ q` form an
interval (with its ends exactly when `m` is even), and for one, two, … digits the two neighbours of the
value on the grid of that many digits are tested for membership.

`Decimal.shortest` writes them: positionally when the leading digit stands at or below the sixteenth
place before the point and at or above the fourth place after it, with at least one digit after the
point; otherwise with an exponent of at least two digits and its sign.
-/

namespace Shroud.Decimal

/-- The rational numbers that read back as one double, in units of a quarter of its last place:
`value`, the two `low` and `high` ends, and whether the ends belong to it. The unit is
`unitNum / unitDen`. -/
structure Interval where
  low : Nat
  value : Nat
  high : Nat
  closed : Bool
  unitNum : Nat
  unitDen : Nat

/-- The interval of `m * 2 ^ q`: half a place to both sides, a quarter below a power of two. -/
def Interval.around (m : Nat) (q : Int) : Interval where
  low := if m = Nat.pow 2 52 ∧ -1074 < q then 4 * m - 1 else 4 * m - 2
  value := 4 * m
  high := 4 * m + 2
  closed := m % 2 == 0
  unitNum := Nat.pow 2 (q - 2).toNat
  unitDen := Nat.pow 2 (2 - q).toNat

/-- The fraction `d * 10 ^ e` as numerator and denominator. -/
def scaled (d : Nat) (e : Int) : Nat × Nat :=
  (d * Nat.pow 10 e.toNat, Nat.pow 10 (-e).toNat)

/-- Whether `d * 10 ^ e` lies in the interval. -/
def Interval.contains (i : Interval) (d : Nat) (e : Int) : Bool :=
  let (num, den) := scaled d e
  let x := num * i.unitDen
  let low := i.low * i.unitNum * den
  let high := i.high * i.unitNum * den
  if i.closed then low ≤ x && x ≤ high else low < x && x < high

/-- The distance of `d * 10 ^ e` from the value, up to a factor that depends on `e` only. -/
def Interval.distance (i : Interval) (d : Nat) (e : Int) : Nat :=
  let (num, den) := scaled d e
  let x := num * i.unitDen
  let v := i.value * i.unitNum * den
  if x ≤ v then v - x else x - v

/-- The greatest multiple of `10 ^ e` that does not exceed the value, divided by `10 ^ e`. -/
def Interval.floor (i : Interval) (e : Int) : Nat :=
  i.value * i.unitNum * Nat.pow 10 (-e).toNat / (i.unitDen * Nat.pow 10 e.toNat)

/-- The number on the grid `10 ^ e` that lies in the interval, the nearer one of two, and the even one
of two that are equally near. -/
def Interval.pick (i : Interval) (e : Int) : Option Nat :=
  let d := i.floor e
  match i.contains d e, i.contains (d + 1) e with
  | true, true =>
    let below := i.distance d e
    let above := i.distance (d + 1) e
    some (if below < above then d else if above < below then d + 1 else d + d % 2)
  | true, false => some d
  | false, true => some (d + 1)
  | false, false => none

/-- The coarsest grid below `10 ^ e` with a point in the interval; the search tries `fuel` grids. -/
def Interval.search (i : Interval) : (fuel : Nat) → (e : Int) → Nat × Int
  | 0, e => (i.floor e, e)
  | fuel + 1, e =>
    match i.pick e with
    | some d => (d, e)
    | none => i.search fuel (e - 1)

/-- The number of digits before the point, or minus the number of zeros after it: `10 ^ (k - 1)` is the
greatest power of ten that does not exceed the value `num / den`. -/
def magnitude (num den : Nat) : Int :=
  if den ≤ num then (Nat.toDigits 10 (num / den)).length
  else
    let k := (Nat.toDigits 10 (den / num)).length
    if den ≤ num * Nat.pow 10 (k - 1) then 2 - (k : Int) else 1 - (k : Int)

/-- **The shortest digits** of `m * 2 ^ q` and the place of the point: the value is
`0.d₁d₂… * 10 ^ point`. -/
def shortestDigits (m : Nat) (q : Int) : List Char × Int :=
  let i := Interval.around m q
  let (num, den) := Binary64.fraction m q
  let k := magnitude num den
  let (d, e) := i.search 17 (k - 1)
  let digits := Nat.toDigits 10 d
  let point := (digits.length : Int) + e
  let digits := (digits.reverse.dropWhile (· == '0')).reverse
  (digits, point)

/-- Digits with a point after the first `point` of them. -/
def positional (digits : List Char) (point : Int) : List Char :=
  if point ≤ 0 then
    '0' :: '.' :: List.replicate (-point).toNat '0' ++ digits
  else
    let k := point.toNat
    let whole := digits.take k ++ List.replicate (k - digits.length) '0'
    let rest := digits.drop k
    whole ++ '.' :: (if rest.isEmpty then ['0'] else rest)

/-- Digits with a point after the first of them and the power of ten that goes with it. -/
def exponential (digits : List Char) (point : Int) : List Char :=
  let e := point - 1
  let power := Nat.toDigits 10 e.natAbs
  let power := if power.length < 2 then '0' :: power else power
  let mantissa :=
    match digits with
    | [d] => [d]
    | d :: ds => d :: '.' :: ds
    | [] => []
  mantissa ++ 'e' :: (if e < 0 then '-' else '+') :: power

/-- **The text of a double**; the caller gives the texts of infinity and of the value that is no
number. -/
def shortest (infinity notNumber : String) : Binary64 → String
  | .nan => notNumber
  | .infinite negative => (if negative then "-" else "") ++ infinity
  | .finite negative m q =>
    let sign := if negative then "-" else ""
    if m = 0 then sign ++ "0.0"
    else
      let (digits, point) := shortestDigits m q
      let body := if -4 < point ∧ point ≤ 16 then positional digits point
        else exponential digits point
      sign ++ String.ofList body

end Shroud.Decimal
