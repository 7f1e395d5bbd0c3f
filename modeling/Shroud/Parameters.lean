import Shroud.Ber.Primitive
import Shroud.Ber.Der
import Shroud.Failure

/-!
# Encryption parameters

The parameters of a password-based scheme are a salt and an iteration count, encoded as a sequence of an
octet string and an integer. `Parameters.read?` accepts every basic encoding of such a sequence, also one
with further elements after the two, and nothing after the sequence itself. `Parameters.decode` also
refuses counts that are not positive or above a ceiling. `Parameters.encode` writes the distinguished
encoding.
-/

namespace Shroud

open Ber

/-- A salt and an iteration count. -/
structure Parameters where
  salt : Bytes
  iterations : Int
  deriving DecidableEq

namespace Parameters

/-- The parameters that the elements of a sequence start with. -/
def ofFields? : List Element → Option Parameters
  | salt :: iterations :: _ =>
    match salt.octetString?, iterations.integer? with
    | some s, some n => some ⟨s, n⟩
    | _, _ => none
  | _ => none

/-- The parameters that a sequence holds. -/
def ofElement? (e : Element) : Option Parameters :=
  e.sequence?.bind ofFields?

/-- The parameters that exactly these octets encode. -/
def read? (raw : Bytes) : Option Parameters :=
  match Element.read raw with
  | some (e, []) => ofElement? e
  | _ => none

/-- Parameters whose count is positive and within the ceiling, if there is one. -/
def check (p : Parameters) (limit : Option Int) : Except Failure Parameters :=
  if p.iterations < 1 then .error (Failure.parameters (.notPositive p.iterations)).checked
  else
    match limit with
    | some m =>
      if m < p.iterations then .error (Failure.parameters (.overLimit p.iterations m)).checked
      else .ok p
    | none => .ok p

/-- **Reading parameters**, with a ceiling for the count or without one. -/
def decode (raw : Bytes) (limit : Option Int := none) : Except Failure Parameters :=
  if raw = [] then .error (.parameters .missing)
  else
    match read? raw with
    | some p => p.check limit
    | none => .error (.parameters .malformed)

/-- **The distinguished encoding.** -/
def encode (p : Parameters) : Bytes :=
  Der.sequence [Der.octetString p.salt, Der.integer p.iterations]

end Parameters

end Shroud
