import Shroud.Log.Level
import Shroud.Log.Moment
import Shroud.Value.Basic

/-!
# Log records

What one log line tells: which logger wrote it, at which level, a message as a template with arguments,
fields, a fault that goes with it, and where it was written. An `Operation` is what groups the lines of one
call: an identifier and a name.
-/

namespace Shroud

/-- What the lines of one call have in common. -/
structure Operation where
  id : String
  name : String
  deriving DecidableEq

/-- The fault that a log line reports. -/
inductive Incident where
  /-- A line that reports a fault where there is none. -/
  | absent
  /-- A fault of a kind, with its arguments. -/
  | fault (kind : FaultKind) (arguments : List Value)

namespace Incident

/-- **The kind and the text of a fault.** The calls through which it came, which may be shown above it, are left out. -/
def text : Incident → String
  | absent => "NoneType: None"
  | fault kind arguments =>
    match (Value.fault kind arguments).display with
    | .ok "" => kind.qualifiedName
    | .ok s => kind.qualifiedName ++ ": " ++ s
    | .error _ => kind.qualifiedName ++ ": <exception str() failed>"

end Incident

/-- What one log line tells. -/
structure Record where
  logger : String
  level : Int
  template : String
  arguments : List Value := []
  fields : Fields := []
  incident : Option Incident := none
  /-- Where the line was written. -/
  source : Value

end Shroud
