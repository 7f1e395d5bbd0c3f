import Shroud.Bytes
import Shroud.Ber.Fault

/-!
# Times

Two types of elements hold a moment as a text: the short one has two digits for the year and a zone, the
general one has four digits, an optional fraction of its last unit, and an optional zone. `Time.renewShort`
and `Time.renewGeneral` write the same moment anew in universal time, with seconds, and with a fraction only
where there is one.

A moment is a date and the microseconds since midnight. Zones are less than a day away from universal time,
so that changing the zone moves a date by at most one day (`Date.moment`).
-/

namespace Shroud.Ber.Time

/-! ### Dates -/

/-- A day of the calendar. -/
structure Date where
  year : Nat
  month : Nat
  day : Nat
  deriving DecidableEq

/-- Whether a year has a day more. -/
def isLeap (year : Nat) : Bool :=
  year % 4 == 0 && (year % 100 != 0 || year % 400 == 0)

/-- The number of days in a month. -/
def daysIn (year month : Nat) : Nat :=
  if month = 2 then (if isLeap year then 29 else 28)
  else if month = 4 ∨ month = 6 ∨ month = 9 ∨ month = 11 then 30
  else 31

/-- Whether there is such a day. -/
def Date.isValid (d : Date) : Bool :=
  1 ≤ d.month && d.month ≤ 12 && 1 ≤ d.day && d.day ≤ daysIn d.year d.month

/-- The day after. -/
def Date.next (d : Date) : Date :=
  if d.day < daysIn d.year d.month then { d with day := d.day + 1 }
  else if d.month < 12 then ⟨d.year, d.month + 1, 1⟩
  else ⟨d.year + 1, 1, 1⟩

/-- The day before; the first day of year zero has none. -/
def Date.previous? (d : Date) : Option Date :=
  if 1 < d.day then some { d with day := d.day - 1 }
  else if 1 < d.month then some ⟨d.year, d.month - 1, daysIn d.year (d.month - 1)⟩
  else if 0 < d.year then some ⟨d.year - 1, 12, 31⟩
  else none

/-- A moment: a day and the microseconds since it began. -/
structure Moment where
  date : Date
  micros : Nat
  deriving DecidableEq

/-- The microseconds of a second. -/
def perSecond : Nat := 1000000

/-- The microseconds of a day. -/
def perDay : Nat := 86400 * perSecond

/-- The moment on a date that lies so many microseconds, less than two days, after its midnight, or less
than one day before. Years from one on do not reach year zero, and no year is above 9999. -/
def Date.moment (d : Date) (micros : Int) : Except Fault Moment :=
  if micros < 0 then
    match d.previous? with
    | none => .error .malformed
    | some before =>
      if before.year = 0 ∧ d.year ≠ 0 then .error .outOfCalendar
      else .ok ⟨before, (micros + perDay).toNat⟩
  else if micros < perDay then .ok ⟨d, micros.toNat⟩
  else if 9999 < d.next.year then .error .outOfCalendar
  else .ok ⟨d.next, micros.toNat - perDay⟩

/-! ### Reading -/

/-- The value of a digit. -/
def digit? (b : UInt8) : Option Nat :=
  if 0x30 ≤ b ∧ b ≤ 0x39 then some (b.toNat - 0x30) else none

/-- The digits at the start, and the rest. -/
def spanDigits : Bytes → List Nat × Bytes
  | [] => ([], [])
  | b :: bs =>
    match digit? b with
    | some d =>
      let (ds, rest) := spanDigits bs
      (d :: ds, rest)
    | none => ([], b :: bs)

/-- The number that digits write. -/
def number (ds : List Nat) : Nat :=
  ds.foldl (fun n d => n * 10 + d) 0

/-- The number that the digits from one place up to another write. -/
def numberAt (ds : List Nat) (start count : Nat) : Nat :=
  number ((ds.drop start).take count)

/-- A fraction: the number that its digits write, and how many digits there are. -/
structure Fraction where
  digits : Nat
  places : Nat

/-- The digits of a fraction, of which there may be at most so many. -/
def mostPlaces : Nat := 4300

/-- A fraction, if there is one, and the rest. -/
def fraction? : Bytes → Option (Option Fraction × Bytes)
  | b :: bs =>
    if b = 0x2c ∨ b = 0x2e then
      let (ds, rest) := spanDigits bs
      if ds = [] ∨ mostPlaces < ds.length then none
      else some (some ⟨number ds, ds.length⟩, rest)
    else some (none, b :: bs)
  | [] => some (none, [])

/-- The microseconds of a fraction of a unit of so many seconds: the nearest number, of two the lower. -/
def Fraction.micros (f : Fraction) (seconds : Nat) : Nat :=
  let n := f.digits * (seconds * perSecond)
  let d := Nat.pow 10 f.places
  if 2 * (n % d) ≤ d then n / d else n / d + 1

/-- A zone, if there is one, as minutes ahead of universal time, and the rest. `widths` are the numbers of
digits that may follow a sign. -/
def zone? (widths : List Nat) : Bytes → Option (Option Int × Bytes)
  | 0x5a :: bs => some (some 0, bs)
  | b :: bs =>
    if b = 0x2b ∨ b = 0x2d then
      let (ds, rest) := spanDigits bs
      let minutes := numberAt ds 0 2 * 60 + numberAt ds 2 2
      if widths.contains ds.length then
        some (some (if b = 0x2d then -(minutes : Int) else minutes), rest)
      else none
    else some (none, b :: bs)
  | [] => some (none, [])

/-- Whether nothing is left but perhaps a line feed. -/
def isEnd (bs : Bytes) : Bool :=
  bs == [] || bs == [0x0a]

/-- The seconds since midnight on which hour, minute and second stand, if these are in range. -/
def clock? (hour minute second : Nat) : Option Nat :=
  if hour < 24 ∧ minute < 60 ∧ second < 60 then some ((hour * 60 + minute) * 60 + second) else none

/-- The moment in universal time of a date, a time of day and a zone. The fraction may lead to the next day
before the zone leads back. -/
def moment (d : Date) (clock : Option Nat) (fraction : Nat) (zone : Option Int) : Except Fault Moment :=
  match clock with
  | none => .error .malformed
  | some seconds =>
    if !d.isValid || zone.any fun minutes => 1440 ≤ minutes.natAbs then .error .malformed
    else do
      let m ← d.moment (seconds * perSecond + fraction : Nat)
      match zone with
      | none => throw .malformed
      | some minutes => m.date.moment (m.micros - minutes * 60 * perSecond)

/-- The moment that a short text tells. A year below fifty is one of the twenty-first century, any other
one of the twentieth. -/
def readShort (bs : Bytes) : Except Fault Moment :=
  let (ds, rest) := spanDigits bs
  match zone? [4] rest with
  | some (zone, rest) =>
    let year := numberAt ds 0 2
    let date : Date := ⟨if year < 50 then 2000 + year else 1900 + year, numberAt ds 2 2, numberAt ds 4 2⟩
    if (ds.length = 10 ∨ ds.length = 12) ∧ isEnd rest then
      moment date (clock? (numberAt ds 6 2) (numberAt ds 8 2) (numberAt ds 10 2)) 0 zone
    else .error .malformed
  | none => .error .malformed

/-- The moment that a general text tells. -/
def readGeneral (bs : Bytes) : Except Fault Moment :=
  let (ds, rest) := spanDigits bs
  match fraction? rest with
  | none => .error .malformed
  | some (fraction, rest) =>
    match zone? [2, 4] rest with
    | none => .error .malformed
    | some (zone, rest) =>
      let unit := if ds.length = 10 then 3600 else if ds.length = 12 then 60 else 1
      let date : Date := ⟨numberAt ds 0 4, numberAt ds 4 2, numberAt ds 6 2⟩
      if (ds.length = 10 ∨ ds.length = 12 ∨ ds.length = 14) ∧ isEnd rest then
        moment date (clock? (numberAt ds 8 2) (numberAt ds 10 2) (numberAt ds 12 2))
          ((fraction.map (·.micros unit)).getD 0) zone
      else .error .malformed

/-! ### Writing -/

/-- The last `width` decimal digits of a number as octets. -/
def digitOctets : (width : Nat) → Nat → Bytes
  | 0, _ => []
  | width + 1, n => digitOctets width (n / 10) ++ [UInt8.ofNat (0x30 + n % 10)]

/-- A year: four digits for year zero, and no leading zeros otherwise. -/
def yearOctets (year : Nat) : Bytes :=
  digitOctets (if year = 0 ∨ 1000 ≤ year then 4 else if 100 ≤ year then 3 else if 10 ≤ year then 2 else 1) year

/-- Month, day and time of day. -/
def restOctets (m : Moment) : Bytes :=
  let seconds := m.micros / perSecond
  digitOctets 2 m.date.month ++ digitOctets 2 m.date.day ++ digitOctets 2 (seconds / 3600)
    ++ digitOctets 2 (seconds / 60 % 60) ++ digitOctets 2 (seconds % 60)

/-- A fraction of a second after a point, without closing zeros. -/
def fractionOctets (m : Moment) : Bytes :=
  let micros := m.micros % perSecond
  if micros = 0 then []
  else 0x2e :: ((digitOctets 6 micros).reverse.dropWhile (· = 0x30)).reverse

/-- **A short text anew.** It tells years from 1950 to 2049 only. -/
def renewShort (bs : Bytes) : Except Fault Bytes := do
  let m ← readShort bs
  if m.date.year < 1950 ∨ 2049 < m.date.year then throw .malformed
  else return digitOctets 2 m.date.year ++ restOctets m ++ [0x5a]

/-- **A general text anew.** -/
def renewGeneral (bs : Bytes) : Except Fault Bytes := do
  let m ← readGeneral bs
  return yearOctets m.date.year ++ restOctets m ++ fractionOctets m ++ [0x5a]

end Shroud.Ber.Time
