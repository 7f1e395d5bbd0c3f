import Shroud.Failure
import Shroud.Settings.Basic
import Shroud.Settings.Coercion
import Shroud.Settings.EnvFile
import Shroud.Text.Lower

/-!
# Sources of settings

Every setting has its value from the first source that gives one: arguments, the environment, a file of
variables; otherwise its default stands. Names are matched without regard to case. Only the value that
was chosen is read, and `Settings.ofSources` reports all settings whose values are rejected, in the order
of the settings.
-/

namespace Shroud

/-- Where settings come from. -/
structure Sources where
  /-- Values by the name of the setting, in any case. -/
  arguments : Fields := []
  /-- The environment's variables. -/
  environment : List (String × String) := []
  /-- The text of a file of variables. -/
  file : String := ""

namespace Sources

/-- The value of the first argument whose name in lower case is the given one. -/
def firstGiven? (name : String) (given : Fields) : Option Value :=
  (given.find? fun (n, _) => Text.lower n == name).map Prod.snd

/-- The value of the last variable whose name in lower case is the given one. -/
def lastSet? (name : String) (set : List (String × String)) : Option String :=
  (set.reverse.find? fun (n, _) => Text.lower n == name).map Prod.snd

/-- What the file of variables sets; a name without a value unsets the same name in other case. -/
def lastInFile? (s : Sources) (name : String) : Option String :=
  (((EnvFile.read s.environment s.file).reverse.find? fun (n, _) =>
    Text.lower n == name).map Prod.snd).join

/-- **The value of a setting**, from the first source that has one. -/
def value? (s : Sources) (f : SettingField) : Option Value :=
  (firstGiven? f.name s.arguments).or
    (((lastSet? f.variableName s.environment).or (s.lastInFile? f.variableName)).map .text)

/-- A setting read from its chosen value, or its default. -/
def read {α : Type} (s : Sources) (f : SettingField) (coercion : Value → Except SettingProblem α)
    (default : α) : Except SettingFault α :=
  match s.value? f with
  | none => .ok default
  | some v =>
    match coercion v with
    | .ok a => .ok a
    | .error problem => .error ⟨f, problem⟩

end Sources

namespace Settings

/-- The fault in a result, if there is one. -/
def faultOf {α : Type} : Except SettingFault α → List SettingFault
  | .ok _ => []
  | .error fault => [fault]

/-- **The settings that sources give**, or every fault in them. -/
def ofSources (s : Sources) : Except (List SettingFault) Settings :=
  let scheme := s.read .defaultScheme Coercion.scheme Scheme.tripleDes
  let iterations := s.read .defaultIterations Coercion.positive 2048
  let salt := s.read .saltLength Coercion.positive 8
  let ceiling := s.read .maxIterations Coercion.positive 10000000
  let level := s.read .logLevel Coercion.severity Severity.warning
  let json := s.read .logJson Coercion.truth false
  match scheme, iterations, salt, ceiling, level, json with
  | .ok scheme, .ok iterations, .ok salt, .ok ceiling, .ok level, .ok json =>
    .ok ⟨scheme, iterations, salt, ceiling, level, json⟩
  | scheme, iterations, salt, ceiling, level, json =>
    .error (faultOf scheme ++ faultOf iterations ++ faultOf salt ++ faultOf ceiling ++ faultOf level
      ++ faultOf json)

/-- The settings that sources give, or the failure that reports every fault. -/
def load (s : Sources) : Except Failure Settings :=
  match ofSources s with
  | .ok settings => .ok settings
  | .error faults => .error (.settings faults)

end Settings

end Shroud
