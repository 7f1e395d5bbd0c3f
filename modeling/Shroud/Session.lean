import Shroud.Log.Logger
import Shroud.Settings.Source

/-!
# Sessions

The state that calls share: where settings come from and the settings once they were read, how far the
random source was drawn, and the journal. Settings are read when they are first needed and kept; a failed
reading is repeated at the next need.
-/

namespace Shroud

/-- The state that calls share. -/
structure Session where
  sources : Sources := {}
  /-- The settings, once they were read. -/
  known : Option Settings := none
  /-- How many octets were drawn from the random source. -/
  drawn : Nat := 0
  journal : Journal := {}

namespace Session

/-- The settings, read now if they were not before. -/
def settings (s : Session) : Except Failure Settings × Session :=
  match s.known with
  | some settings => (.ok settings, s)
  | none =>
    match Settings.load s.sources with
    | .ok settings => (.ok settings, { s with known := some settings })
    | .error failure => (.error failure, s)

/-- The session that will read its settings again. -/
def forget (s : Session) : Session :=
  { s with known := none }

/-- The session in which variables of the environment are set. -/
def setVariables (s : Session) (added : List (String × String)) : Session :=
  let environment := added.foldl (fun acc (name, v) => Assoc.set (· == ·) name v acc)
    s.sources.environment
  { s with sources := { s.sources with environment } }

/-- Octets of the random source that were not drawn before. -/
def draw (s : Session) (around : Surroundings) (n : Nat) : Bytes × Session :=
  ((List.range n).map fun i => around.random (s.drawn + i), { s with drawn := s.drawn + n })

/-- **Setting up the log**: whether lines are JSON, and the level, each from the settings when null is
given. A failure leaves the log as it was. -/
def setUpLog (s : Session) (json level : Value) : Except Failure Unit × Session :=
  match s.settings with
  | (.error failure, s) => (.error failure, s)
  | (.ok settings, s) =>
    let asked : Except Failure Nat := match level with
      | .null => .ok settings.logLevel.number
      | level => Level.ofValue level
    match asked with
    | .error failure => (.error failure, s)
    | .ok number =>
      let isJson := match json with
        | .null => settings.logJson
        | json => json.isTrue
      let setup : LogSetup := ⟨number, [if isJson then .json else .human], false⟩
      (.ok (), { s with journal := { s.journal with setup := some setup } })

end Session

end Shroud
