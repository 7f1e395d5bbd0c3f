import Shroud.Text.Quoted
import Shroud.Scheme

/-!
# Faults of settings

A setting is rejected for one of a few problems; every rejected setting is reported once, by its field.
`SettingProblem.code` is the short name of a problem, and a value that was read but not accepted also has
a message.
-/

namespace Shroud

/-- The settings, in the order in which they are read and reported. -/
inductive SettingField where
  | defaultScheme
  | defaultIterations
  | saltLength
  | maxIterations
  | logLevel
  | logJson
  deriving DecidableEq, Repr

namespace SettingField

/-- The field's name. -/
def name : SettingField → String
  | defaultScheme => "default_scheme"
  | defaultIterations => "default_iterations"
  | saltLength => "salt_length"
  | maxIterations => "max_iterations"
  | logLevel => "log_level"
  | logJson => "log_json"

/-- The variable that sets the field, in lower case. -/
def variableName (f : SettingField) : String :=
  "pkcs12_pbe_" ++ f.name

end SettingField

/-- What is wrong with the value of a setting. -/
inductive SettingProblem where
  /-- The value is of no kind that an integer is read from. -/
  | integerKind
  /-- The text is no integer. -/
  | integerText
  /-- The text or number has more digits than are read. -/
  | integerSize
  /-- The number has a fractional part. -/
  | fractional
  /-- The number is infinite or no number. -/
  | notFinite
  /-- The value is of no kind that a truth value is read from. -/
  | truthKind
  /-- The text or number is no truth value. -/
  | truthText
  /-- The value is of no kind that a text is read from. -/
  | textKind
  /-- The octets are no text. -/
  | textEncoding
  /-- The integer is not positive. -/
  | notPositive
  /-- The text names no registered scheme. -/
  | unknownScheme (given : String)
  /-- The text names no log level. -/
  | unknownLevel (given : String)
  deriving DecidableEq, Repr

namespace SettingProblem

/-- The short name of a problem. -/
def code : SettingProblem → String
  | integerKind => "int_type"
  | integerText => "int_parsing"
  | integerSize => "int_parsing_size"
  | fractional => "int_from_float"
  | notFinite => "finite_number"
  | truthKind => "bool_type"
  | truthText => "bool_parsing"
  | textKind => "string_type"
  | textEncoding => "string_unicode"
  | notPositive | unknownScheme _ | unknownLevel _ => "value_error"

/-- The message about a value that was read but not accepted. -/
def message? : SettingProblem → Option String
  | notPositive => some "Value error, must be a positive integer"
  | unknownScheme given =>
    some ("Value error, default_scheme must be one of " ++ ", ".intercalate (Scheme.all.map (·.name))
      ++ ", got " ++ Text.quoted given)
  | unknownLevel given => some ("Value error, unknown log level " ++ Text.quoted given)
  | _ => none

end SettingProblem

/-- A rejected setting. -/
structure SettingFault where
  field : SettingField
  problem : SettingProblem
  deriving DecidableEq, Repr

end Shroud
