import Shroud.Value.Basic
import Shroud.Decimal.Integer
import Shroud.Decimal.Shortest
import Shroud.Text.Quoted

/-!
# The texts of a value

A value has three texts.

* `Value.display` is the text for people: a text stands for itself and a fault for its message.
* `Value.inspect` shows what the value is: texts in quotes, a scheme and a purpose as the constants they
  are, a fault with its arguments. Items of sequences and dictionaries are always inspected.
* `Value.json` is the JSON text in printable ASCII. What JSON has no form for is written as the text
  for people.

Writing fails (`RenderFault`) on an integer of more than 4300 digits, and in JSON on a dictionary key
that is no text, number, truth value or null.
-/

namespace Shroud

/-- Why a value, a template or a log line cannot be written. -/
inductive RenderFault where
  /-- An integer has more digits than are ever written. -/
  | oversizedInteger
  /-- A field inside a dictionary has a name that is not a text. -/
  | fieldName
  /-- A dictionary key has no form in JSON. -/
  | keyKind
  /-- The arguments do not fit the placeholders of a template. -/
  | arguments
  /-- A template has a placeholder that is not known. -/
  | placeholder
  /-- A placeholder for an integer met a value that is no number. -/
  | notNumber
  /-- A placeholder for an integer met an infinite number. -/
  | infinite
  /-- A number is too large for its place. -/
  | outOfRange
  /-- A placeholder names an argument that there is not. -/
  | missingName
  /-- A character is a surrogate. -/
  | surrogate
  deriving DecidableEq, Repr

/-- The kind of fault that a writing failure is reported as. -/
def RenderFault.kind : RenderFault → FaultKind
  | oversizedInteger | placeholder | notNumber => .value
  | fieldName => .missingAttribute
  | keyKind | arguments => .type
  | infinite | outOfRange => .overflow
  | missingName => .key
  | surrogate => .encode

namespace Value

/-- An integer in decimal. -/
def ofInteger (n : Int) : Except RenderFault String :=
  match Decimal.text? n with
  | some s => .ok s
  | none => .error .oversizedInteger

/-- A double as people read it. -/
def ofDouble (bits : UInt64) : String :=
  Decimal.shortest "inf" "nan" (Binary64.ofBits bits)

/-- Items between brackets. -/
def enclosed (opening closing : String) (items : List String) : String :=
  opening ++ ", ".intercalate items ++ closing

/-- Items between parentheses; a single item is followed by a comma. -/
def parenthesized : List String → String
  | [item] => "(" ++ item ++ ",)"
  | items => enclosed "(" ")" items

/-- The arguments of a fault between parentheses. -/
def called (name : String) (arguments : List String) : String :=
  name ++ enclosed "(" ")" arguments

mutual

/-- The text that shows what a value is. -/
def inspect : Value → Except RenderFault String
  | null => .ok "None"
  | bool b => .ok (if b then "True" else "False")
  | int n => ofInteger n
  | float bits => .ok (ofDouble bits)
  | text s => .ok (Text.quoted s)
  | bytes bs => .ok (Text.quotedBytes bs)
  | buffer bs => .ok ("bytearray(" ++ Text.quotedBuffer bs ++ ")")
  | list vs => (inspectAll vs).map (enclosed "[" "]")
  | tuple vs => (inspectAll vs).map parenthesized
  | dict entries => (inspectEntries entries).map (enclosed "\x7b" "\x7d")
  | scheme s => .ok ("<PBEScheme." ++ s.label ++ ": " ++ Text.quoted s.name ++ ">")
  | purpose p => .ok ("<KDFPurpose." ++ p.label ++ ": " ++ Decimal.ofInt p.id ++ ">")
  | fault kind arguments => (inspectAll arguments).map (called kind.name)

/-- The texts of the items of a sequence. -/
def inspectAll : List Value → Except RenderFault (List String)
  | [] => .ok []
  | v :: vs => do
    let s ← inspect v
    let ss ← inspectAll vs
    return s :: ss

/-- The texts of the entries of a dictionary. -/
def inspectEntries : List (Value × Value) → Except RenderFault (List String)
  | [] => .ok []
  | (k, v) :: rest => do
    let key ← inspect k
    let value ← inspect v
    let ss ← inspectEntries rest
    return (key ++ ": " ++ value) :: ss

end

/-- The text for people. -/
def display : Value → Except RenderFault String
  | text s => .ok s
  | scheme s => .ok ("PBEScheme." ++ s.label)
  | purpose p => .ok (Decimal.ofInt p.id)
  | fault _ [] => .ok ""
  | fault _ [argument] => display argument
  | fault _ arguments => (inspectAll arguments).map parenthesized
  | v => inspect v

/-- The JSON text of a double. -/
def jsonDouble (bits : UInt64) : String :=
  Decimal.shortest "Infinity" "NaN" (Binary64.ofBits bits)

/-- The JSON text of a truth value. -/
def jsonBool (b : Bool) : String :=
  if b then "true" else "false"

/-- The name under which JSON writes a dictionary key. -/
def jsonKey : Value → Except RenderFault String
  | text s => .ok s
  | scheme s => .ok s.name
  | null => .ok "null"
  | bool b => .ok (jsonBool b)
  | int n => ofInteger n
  | purpose p => .ok (Decimal.ofInt p.id)
  | float bits => .ok (jsonDouble bits)
  | _ => .error .keyKind

/-- One entry of a JSON object. -/
def jsonEntry (name value : String) : String :=
  Text.escaped name ++ ": " ++ value

/-- A JSON object with the given entries. -/
def jsonObject (entries : List String) : String :=
  enclosed "\x7b" "\x7d" entries

mutual

/-- The JSON text of a value. -/
def json : Value → Except RenderFault String
  | null => .ok "null"
  | bool b => .ok (jsonBool b)
  | int n => ofInteger n
  | float bits => .ok (jsonDouble bits)
  | text s => .ok (Text.escaped s)
  | list vs => (jsonAll vs).map (enclosed "[" "]")
  | tuple vs => (jsonAll vs).map (enclosed "[" "]")
  | dict entries => (jsonEntries entries).map jsonObject
  | scheme s => .ok (Text.escaped s.name)
  | purpose p => .ok (Decimal.ofInt p.id)
  | v => (display v).map Text.escaped

/-- The JSON texts of the items of a sequence. -/
def jsonAll : List Value → Except RenderFault (List String)
  | [] => .ok []
  | v :: vs => do
    let s ← json v
    let ss ← jsonAll vs
    return s :: ss

/-- The JSON texts of the entries of a dictionary. -/
def jsonEntries : List (Value × Value) → Except RenderFault (List String)
  | [] => .ok []
  | (k, v) :: rest => do
    let name ← jsonKey k
    let value ← json v
    let ss ← jsonEntries rest
    return jsonEntry name value :: ss

end

end Value

end Shroud
