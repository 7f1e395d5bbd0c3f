import Shroud.Decimal.Integer
import Shroud.Failure
import Shroud.Log.Severity
import Shroud.Text.Upper

/-!
# Log levels

A level is a number. The numbers of the severities and zero have names (`Level.name`); the other way
round, levels are asked for by names in any case, of which some are second names (`Level.ofValue`).
-/

namespace Shroud.Level

/-- The name of a level. -/
def name (level : Int) : String :=
  if level = 0 then "NOTSET"
  else
    match Severity.all.find? fun s => (s.number : Int) = level with
    | some s => s.name
    | none => "Level " ++ Decimal.ofInt level

/-- The levels that can be asked for by name. -/
def named : List (String × Nat) :=
  [("NOTSET", 0), ("DEBUG", 10), ("INFO", 20), ("WARN", 30), ("WARNING", 30), ("ERROR", 40),
    ("FATAL", 50), ("CRITICAL", 50)]

/-- The names that stand for something else than a level. -/
def misnamed : List (String × Misuse) :=
  [("BASIC_FORMAT", .textLevel), ("_STYLES", .levelKind)]

/-- The level with a name in any case. -/
def ofName (s : String) : Except Failure Nat :=
  let s := Text.upper s
  match named.lookup s with
  | some level => .ok level
  | none => .error (.misuse ((misnamed.lookup s).getD .unknownLevel))

/-- **The level that a value asks for.** Only texts name levels. -/
def ofValue : Value → Except Failure Nat
  | .text s => ofName s
  | .scheme s => ofName s.name
  | .bytes _ | .buffer _ => .error (.misuse .levelKind)
  | _ => .error (.misuse .unknownLevel)

end Shroud.Level
