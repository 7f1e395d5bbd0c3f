/-!
# Severities

The five severities of log lines, each with its name and its number. Higher numbers are more severe.
-/

namespace Shroud

/-- How severe a log line is. -/
inductive Severity where
  | debug
  | info
  | warning
  | error
  | critical
  deriving DecidableEq, Repr

namespace Severity

/-- All severities, the least severe first. -/
def all : List Severity := [debug, info, warning, error, critical]

/-- The name. -/
def name : Severity → String
  | debug => "DEBUG"
  | info => "INFO"
  | warning => "WARNING"
  | error => "ERROR"
  | critical => "CRITICAL"

/-- The number. -/
def number : Severity → Nat
  | debug => 10
  | info => 20
  | warning => 30
  | error => 40
  | critical => 50

/-- The severity with a name. -/
def ofName? (s : String) : Option Severity :=
  all.find? (·.name == s)

theorem ofName?_name (s : Severity) : ofName? s.name = some s := by
  cases s <;> decide

end Severity

end Shroud
