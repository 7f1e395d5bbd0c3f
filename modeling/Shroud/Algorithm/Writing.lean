import Shroud.Algorithm.Registry
import Shroud.Ber.Renewal
import Shroud.Parameters

/-!
# Parameters as they are written

Parameters are taken out of a structure with the octets they were read from, and only their outermost tag is
checked. When their header ends in the octet that marks an indefinite length, they are written anew
(`Form.written`): every field in its distinguished encoding, fields that have their default left out, and
further elements dropped (`Form.renewed`).
-/

namespace Shroud.Algorithm

open Ber

/-- What was found, or that the octets do not follow the grammar. -/
def orMalformed {α : Type} : Option α → Except Fault α
  | some a => .ok a
  | none => .error .malformed

namespace Field

/-- Whether an element can be this field, as far as its tag goes. -/
def matchesTag (f : Field) (e : Element) : Bool :=
  match f.tag with
  | some n => e.header.tagClass = .context && e.header.number == n
  | none => e.isUniversal f.form.number

/-- The elements in the places of the fields: a field that may be absent is left out when the next element
has another tag. Elements after the last field are dropped. -/
def place : List Field → List Element → Option (List (Field × Option Element))
  | [], _ => some []
  | f :: fs, [] => if f.presence = .mandatory then none else (place fs []).map ((f, none) :: ·)
  | f :: fs, e :: es =>
    if f.presence ≠ .mandatory && !f.matchesTag e then (place fs (e :: es)).map ((f, none) :: ·)
    else (place fs es).map ((f, some e) :: ·)

/-- The octets of a field, or none when it has its default. -/
def unlessDefault (f : Field) (octets : Bytes) : Bytes :=
  if f.presence = .default octets then [] else octets

/-- The element inside the context tag of a field. -/
def inside? (n : Nat) (e : Element) : Option Element :=
  if e.header.tagClass = .context && e.header.number == n && e.header.constructed then
    (Element.read e.contents).map Prod.fst
  else none

/-- The octets of a field anew; `renewed` writes the value of a form. -/
def renewed (renewed : Form → Element → Except Fault Bytes) (f : Field) : Option Element →
    Except Fault Bytes
  | none => .ok []
  | some e =>
    match f.tag with
    | none => (renewed f.form e).map f.unlessDefault
    | some n => do
      let value ← renewed f.form (← orMalformed (inside? n e))
      return f.unlessDefault (Der.element (UInt8.ofNat (0xa0 + n)) value)

end Field

namespace Form

/-- The form of an element that is a salt or the source of one. -/
def ofSalt (e : Element) : Form :=
  if e.isUniversal 4 then .octetString else .identifier .other

/-- **The value of a form, written anew.** `fuel` bounds the nesting. -/
def renewed : (fuel : Nat) → Form → Element → Except Fault Bytes
  | 0, _, _ => .error .malformed
  | fuel + 1, form, e =>
    match form with
    | any => e.renewed
    | null => if e.isNull then e.renewed else .error .malformed
    | integer => (orMalformed e.integer?).map Der.integer
    | octetString => (orMalformed e.octetString?).map Der.octetString
    | saltAndCount => (orMalformed (Parameters.ofElement? e)).map Parameters.encode
    | saltOrSource => if e.isIndefinite then .error .malformed else renewed fuel (ofSalt e) e
    | identifier family =>
      match e.sequence? with
      | some (oid :: rest) => do
        let name ← orMalformed (ObjectIdentifier.ofElement? oid)
        let contents ← orMalformed (ObjectIdentifier.contents? name)
        let parameters ← match rest with
          | [] => .ok []
          | p :: _ => renewed fuel (Registry.parameterForm family name) p
        return Der.sequence [ObjectIdentifier.element contents, parameters]
      | _ => .error .malformed
    | form => do
      let places ← orMalformed (e.sequence?.bind (Field.place form.fields))
      let octets ← places.mapM fun (f, found) => f.renewed (renewed fuel) found
      return Der.sequence octets

/-- Whether the outermost tag is that of the form. -/
def admits : Form → Element → Bool
  | any, e => Element.isKnownType e.header.number
  | null, e => e.isNull
  | octetString, e => e.isUniversal 4 && (!e.header.constructed || e.isIndefinite)
  | form, e => e.isUniversal form.number && e.header.constructed

/-- **The octets with which parameters are written**, if they have the form: those they were read from, or
an encoding anew when the header ends in the mark of an indefinite length. -/
def written (form : Form) (e : Element) : Except Fault Bytes :=
  if !form.admits e then .error .malformed
  else if e.endsInIndefiniteMark then renewed (e.contents.length + 2) form e
  else .ok e.octets

end Form

end Shroud.Algorithm
