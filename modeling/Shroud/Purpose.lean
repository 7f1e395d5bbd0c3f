/-!
# Purposes of derived material

One construction derives key material for three purposes, told apart by the diversifier octet.
-/

namespace Shroud

/-- What derived octets are for. -/
inductive Purpose where
  | key
  | iv
  | mac
  deriving DecidableEq, Repr

namespace Purpose

/-- The diversifier. -/
def id : Purpose → Nat
  | key => 1
  | iv => 2
  | mac => 3

/-- The purpose with a diversifier. -/
def ofId? : Nat → Option Purpose
  | 1 => some key
  | 2 => some iv
  | 3 => some mac
  | _ => none

/-- The purpose as a word of an error message. -/
def name : Purpose → String
  | key => "key"
  | iv => "iv"
  | mac => "mac"

/-- The constant under which client code writes the purpose. -/
def label : Purpose → String
  | key => "KEY"
  | iv => "IV"
  | mac => "MAC"

end Purpose

end Shroud
