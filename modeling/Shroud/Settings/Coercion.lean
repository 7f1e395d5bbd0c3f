import Shroud.Decimal.Lenient
import Shroud.Log.Severity
import Shroud.Settings.Fault
import Shroud.Text.Upper
import Shroud.Value.Basic

/-!
# Values of settings

Settings are given as values of any kind, often as texts. A coercion reads a value as an integer, a truth
value or a text, and on top of these come the values that a setting accepts: positive integers
(`Coercion.positive`), names of schemes (`Coercion.scheme`) and names of severities in any case
(`Coercion.severity`).
-/

namespace Shroud.Coercion

/-- The text that octets encode. -/
def decoded (bs : Bytes) (problem : SettingProblem) : Except SettingProblem String :=
  match String.fromUTF8? ⟨bs.toArray⟩ with
  | some s => .ok s
  | none => .error problem

/-- The integer that a text stands for. -/
def integerOfText (s : String) : Except SettingProblem Int :=
  match Decimal.lenient? s with
  | some n => .ok n
  | none => .error (if Decimal.isOversized s then .integerSize else .integerText)

/-- The least number above all signed numbers of 64 binary digits. -/
def wordBound : Int := Nat.pow 2 63

/-- Whether an integer is a signed number of 64 binary digits. -/
def isWord (n : Int) : Bool := -wordBound ≤ n && n < wordBound

/-- Whether the integer that a double is equal to is read: the least signed number of 64 binary digits is
not. -/
def isReadFromDouble (n : Int) : Bool := -wordBound < n && n < wordBound

/-- The integer that a double is equal to. -/
def integerOfDouble (x : Binary64) : Except SettingProblem Int :=
  match x.truncate?, x.integer? with
  | none, _ => .error .notFinite
  | some _, some n => if isReadFromDouble n then .ok n else .error .integerSize
  | some _, none => .error .fractional

/-- **A value as an integer.** Truth values count as one and zero. -/
def integer : Value → Except SettingProblem Int
  | .bool b => .ok (if b then 1 else 0)
  | .int n => .ok n
  | .purpose p => .ok p.id
  | .float bits => integerOfDouble (Binary64.ofBits bits)
  | .text s => integerOfText s
  | .scheme s => integerOfText s.name
  | .bytes bs => do integerOfText (← decoded bs .integerText)
  | _ => .error .integerKind

/-- The words for true. -/
def trueWords : List String := ["1", "on", "t", "true", "y", "yes"]

/-- The words for false. -/
def falseWords : List String := ["0", "off", "f", "false", "n", "no"]

/-- The truth value that a word stands for, in any case. -/
def truthOfText (s : String) : Except SettingProblem Bool :=
  let word := String.ofList (s.toList.map Char.toLower)
  if trueWords.contains word then .ok true
  else if falseWords.contains word then .ok false
  else .error .truthText

/-- The truth value that one or zero stands for. -/
def truthOfInteger (n : Int) : Except SettingProblem Bool :=
  if n = 1 then .ok true else if n = 0 then .ok false else .error .truthText

/-- The truth value of an integer, if it is one that is read. -/
def truthWithin (isRead : Int → Bool) (n : Int) : Except SettingProblem Bool :=
  if isRead n then truthOfInteger n else .error .truthKind

/-- **A value as a truth value.** -/
def truth : Value → Except SettingProblem Bool
  | .bool b => .ok b
  | .int n => truthWithin isWord n
  | .purpose p => truthOfInteger p.id
  | .float bits =>
    match (Binary64.ofBits bits).integer? with
    | some n => truthWithin isReadFromDouble n
    | none => .error .truthKind
  | .text s => truthOfText s
  | .scheme s => truthOfText s.name
  | .bytes bs => do truthOfText (← decoded bs .truthText)
  | _ => .error .truthKind

/-- **A value as a text.** The text of a purpose is its number. -/
def text : Value → Except SettingProblem String
  | .text s => .ok s
  | .scheme s => .ok s.name
  | .purpose p => .ok (Decimal.ofInt p.id)
  | .bytes bs | .buffer bs => decoded bs .textEncoding
  | _ => .error .textKind

/-- A positive integer. -/
def positive (v : Value) : Except SettingProblem Nat := do
  let n ← integer v
  if n < 1 then .error .notPositive else .ok n.toNat

/-- The name of a scheme. -/
def scheme (v : Value) : Except SettingProblem Scheme := do
  let s ← text v
  match Scheme.ofName? s with
  | some scheme => .ok scheme
  | none => .error (.unknownScheme s)

/-- The name of a severity, in any case. -/
def severity (v : Value) : Except SettingProblem Severity := do
  let s := Text.upper (← text v)
  match Severity.ofName? s with
  | some severity => .ok severity
  | none => .error (.unknownLevel s)

end Shroud.Coercion
