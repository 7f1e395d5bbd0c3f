import Shroud.Log.Severity
import Shroud.Value.Basic

/-!
# Settings

What can be configured: the scheme, iteration count and salt length of new envelopes, the ceiling for
iteration counts that are read, and how the log is written.
-/

namespace Shroud

/-- The configuration. -/
structure Settings where
  defaultScheme : Scheme := .tripleDes
  defaultIterations : Nat := 2048
  saltLength : Nat := 8
  maxIterations : Nat := 10000000
  logLevel : Severity := .warning
  logJson : Bool := false
  deriving DecidableEq

/-- The settings as named values. -/
def Settings.toFields (s : Settings) : Fields :=
  [("default_scheme", .text s.defaultScheme.name), ("default_iterations", .int s.defaultIterations),
    ("salt_length", .int s.saltLength), ("max_iterations", .int s.maxIterations),
    ("log_level", .text s.logLevel.name), ("log_json", .bool s.logJson)]

end Shroud
