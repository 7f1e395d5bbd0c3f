import Shroud.Decimal.Integer

/-!
# Moments

A moment of the calendar down to the microsecond, written in full (`Moment.stamp`) or as a time of day with
milliseconds (`Moment.timeOfDay`).
-/

namespace Shroud

/-- A moment of the calendar. -/
structure Moment where
  year : Nat
  month : Nat
  day : Nat
  hour : Nat
  minute : Nat
  second : Nat
  microsecond : Nat
  deriving DecidableEq

namespace Moment

/-- A number with zeros before it up to a width. -/
def padded (width n : Nat) : String :=
  let digits := Nat.toDigits 10 n
  String.ofList (List.replicate (width - digits.length) '0' ++ digits)

/-- The time of day in whole seconds. -/
def clockText (m : Moment) : String :=
  padded 2 m.hour ++ ":" ++ padded 2 m.minute ++ ":" ++ padded 2 m.second

/-- **Date and time in universal time.** There is no fraction when the microseconds are zero. -/
def stamp (m : Moment) : String :=
  padded 4 m.year ++ "-" ++ padded 2 m.month ++ "-" ++ padded 2 m.day ++ "T" ++ m.clockText
    ++ (if m.microsecond = 0 then "" else "." ++ padded 6 m.microsecond) ++ "+00:00"

/-- The time of day with milliseconds, which are cut off, not rounded. -/
def timeOfDay (m : Moment) : String :=
  m.clockText ++ "." ++ padded 3 (m.microsecond / 1000)

end Moment

end Shroud
