import Shroud.Bytes
import Shroud.Scheme
import Shroud.Purpose
import Shroud.Decimal.Binary64

/-!
# Values

What clients hand over without a fixed type: fields and arguments of log lines, settings, scheme and
algorithm names. A `Value` is a constant, a number, a text, a byte string (immutable or a mutable
buffer), a sequence, a dictionary in insertion order, a scheme, a purpose, or a fault.

A fault is an error object: its kind and the arguments it was made from. Kinds have the names under
which log lines report them.
-/

namespace Shroud

/-- The kinds of faults. The first seven are the library's own; the others arise from misuse. -/
inductive FaultKind where
  | general
  | unsupported
  | parameters
  | derivation
  | cipher
  | length
  | decryption
  | settings
  | type
  | value
  | zeroDivision
  | index
  | missingAttribute
  | encode
  | decode
  | key
  | overflow
  | runtime
  deriving DecidableEq, Repr

namespace FaultKind

/-- The name of the kind. -/
def name : FaultKind → String
  | general => "PBEError"
  | unsupported => "NotSupportedError"
  | parameters => "ParameterDecodeError"
  | derivation => "KeyDerivationError"
  | cipher => "CipherConstructionError"
  | length => "CiphertextLengthError"
  | decryption => "DecryptionError"
  | settings => "ValidationError"
  | type => "TypeError"
  | value => "ValueError"
  | zeroDivision => "ZeroDivisionError"
  | index => "IndexError"
  | missingAttribute => "AttributeError"
  | encode => "UnicodeEncodeError"
  | decode => "UnicodeDecodeError"
  | key => "KeyError"
  | overflow => "OverflowError"
  | runtime => "RuntimeError"

/-- Whether the kind is one of the library's own. -/
def isOwn : FaultKind → Bool
  | general | unsupported | parameters | derivation | cipher | length | decryption => true
  | _ => false

/-- The name with the library's prefix for its own kinds. -/
def qualifiedName (k : FaultKind) : String :=
  (if k.isOwn then "pkcs12_pbe.errors." else "") ++ k.name

/-- The kinds that client code can make faults of. -/
def raisable : List FaultKind :=
  [general, unsupported, parameters, derivation, cipher, length, decryption, value, runtime]

/-- The raisable kind of a name. -/
def ofName? (s : String) : Option FaultKind :=
  raisable.find? (·.name == s)

end FaultKind

/-- A value without a fixed type. -/
inductive Value where
  | null
  | bool (b : Bool)
  | int (n : Int)
  | float (bits : UInt64)
  | text (s : String)
  | bytes (bs : Bytes)
  | buffer (bs : Bytes)
  | list (vs : List Value)
  | tuple (vs : List Value)
  | dict (entries : List (Value × Value))
  | scheme (s : Scheme)
  | purpose (p : Purpose)
  | fault (kind : FaultKind) (arguments : List Value)
  deriving Inhabited

namespace Value

/-- **Truth of a value.** Null, false, zero, and everything empty is false. -/
def isTrue : Value → Bool
  | null => false
  | bool b => b
  | int n => n != 0
  | float bits => !(Binary64.ofBits bits).isZero
  | text s => !s.isEmpty
  | bytes bs | buffer bs => !bs.isEmpty
  | list vs | tuple vs => !vs.isEmpty
  | dict entries => !entries.isEmpty
  | scheme _ | purpose _ | fault .. => true

/-- The integer that a number is equal to: truth values count as one and zero. -/
def integer? : Value → Option Int
  | bool b => some (if b then 1 else 0)
  | int n => some n
  | float bits => (Binary64.ofBits bits).integer?
  | purpose p => some p.id
  | _ => none

/-- The text that a text or a scheme is equal to. -/
def text? : Value → Option String
  | text s => some s
  | scheme s => some s.name
  | _ => none

mutual

/-- Whether a value can be the key of a dictionary: nothing in it is mutable. -/
def isKey : Value → Bool
  | buffer _ | list _ | dict _ => false
  | tuple vs => areKeys vs
  | _ => true

/-- Whether all values can be keys. -/
def areKeys : List Value → Bool
  | [] => true
  | v :: vs => isKey v && areKeys vs

end

mutual

/-- **Equality of dictionary keys.** Equal numbers are one key whatever their type, and a scheme is one
key with its name; two faults are never one key. -/
def sameKey : Value → Value → Bool
  | null, null => true
  | bytes a, bytes b => a == b
  | tuple as, tuple bs => sameKeys as bs
  | float a, float b => Float.ofBits a == Float.ofBits b
  | a, b =>
    match a.integer?, b.integer? with
    | some m, some n => m == n
    | _, _ =>
      match a.text?, b.text? with
      | some s, some t => s == t
      | _, _ => false

/-- Equality of keys, item by item. -/
def sameKeys : List Value → List Value → Bool
  | [], [] => true
  | a :: as, b :: bs => sameKey a b && sameKeys as bs
  | _, _ => false

end

end Value

/-- An association in insertion order with one entry set: an equal key keeps its place and its first
spelling and takes the new value. -/
def Assoc.set {κ α : Type} (same : κ → κ → Bool) (key : κ) (value : α) :
    List (κ × α) → List (κ × α)
  | [] => [(key, value)]
  | (k, v) :: rest =>
    if same k key then (k, value) :: rest else (k, v) :: Assoc.set same key value rest

/-- An association in insertion order made of entries set one after another. -/
def Assoc.ofList {κ α : Type} (same : κ → κ → Bool) (entries : List (κ × α)) : List (κ × α) :=
  entries.foldl (fun acc (k, v) => Assoc.set same k v acc) []

/-- The fields of a log line: names in insertion order, each with a value. -/
abbrev Fields := List (String × Value)

/-- Fields given one after another; the last value of a name counts, at the place of the first. -/
def Fields.ofList (entries : List (String × Value)) : Fields :=
  Assoc.ofList (· == ·) entries

/-- A dictionary given entry by entry. -/
def Value.ofEntries (entries : List (Value × Value)) : Value :=
  .dict (Assoc.ofList Value.sameKey entries)

end Shroud
