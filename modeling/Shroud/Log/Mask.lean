import Shroud.Text.Lower
import Shroud.Text.Search
import Shroud.Value.Printer

/-!
# Masking of fields

Values of sensitive fields never reach a log line: a field whose name contains one of a few words, in any
case, is replaced by a fixed text, and octets are replaced by their number. Dictionaries are masked inside,
on every level that is reached through dictionaries alone. The names in them have to be texts.

Dictionaries may be nested to any depth here. An interpreter that runs out of stack on a deep one is left out: how deep
that is depends on the calls around, and is no property of the fields.
-/

namespace Shroud.Mask

/-- The words that make a field sensitive. -/
def sensitiveWords : List String :=
  ["password", "passphrase", "secret", "key", "iv", "salt", "plaintext", "message", "private_key"]

/-- Whether a field with this name is sensitive. -/
def isSensitive (name : String) : Bool :=
  sensitiveWords.any fun word => Text.occurs word (Text.lower name)

/-- What stands for a sensitive value. -/
def redacted : Value :=
  .text "[REDACTED]"

/-- What stands for octets. -/
def summary (bs : Bytes) : Value :=
  .text ("<" ++ Decimal.ofInt bs.length ++ " bytes>")

/-- The name that a key of a dictionary is. -/
def keyName : Value → Except RenderFault String
  | .text s => .ok s
  | .scheme s => .ok s.name
  | .bytes _ => .error .keyKind
  | _ => .error .fieldName

mutual

/-- The value that stands for the value of a field that is not sensitive. -/
def value : Value → Except RenderFault Value
  | .dict es => (entries es).map .dict
  | .bytes bs | .buffer bs => .ok (summary bs)
  | v => .ok v

/-- The entries that stand for those of a dictionary. -/
def entries : List (Value × Value) → Except RenderFault (List (Value × Value))
  | [] => .ok []
  | (k, v) :: rest => do
    let name ← keyName k
    let shown ← if isSensitive name then .ok redacted else value v
    let others ← entries rest
    return (k, shown) :: others

end

/-- **The fields that stand for the fields of a log line.** -/
def fields : Fields → Except RenderFault Fields
  | [] => .ok []
  | (name, v) :: rest => do
    let shown ← if isSensitive name then .ok redacted else value v
    let others ← fields rest
    return (name, shown) :: others

end Shroud.Mask
