import Shroud.Log.Moment
import Shroud.Value.Basic

/-!
# Surroundings

What a program takes from outside while it runs. Everything that is drawn is numbered, so that a run is a
function of its surroundings and two draws are never confused.
-/

namespace Shroud

/-- What comes from outside. -/
structure Surroundings where
  /-- The octet of the random source at a position. -/
  random : Nat → UInt8
  /-- The identifier of the operation that is opened after so many others. -/
  operationId : Nat → String
  /-- The reading of the clock, in seconds, after so many others. -/
  clock : Nat → Float
  /-- The moment that log lines carry. -/
  now : Moment
  /-- What log lines carry as their place in the program. -/
  source : Value

end Shroud
