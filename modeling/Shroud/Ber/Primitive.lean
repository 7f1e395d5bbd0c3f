import Shroud.Ber.Element

/-!
# Values of elements

What elements of a known type stand for. Each reader checks the tag first and gives nothing for an
element of another type.
-/

namespace Shroud.Ber.Element

/-- The elements inside a sequence. -/
def sequence? (e : Element) : Option (List Element) :=
  if e.isUniversal 16 && e.header.constructed then readAll e.contents else none

/-- The integer that octets are in two's complement; no octets stand for zero. -/
def signedNumber (bs : Bytes) : Int :=
  if 128 ≤ (bs.headD 0).toNat then (bs.toNat : Int) - (Nat.pow 2 (8 * bs.length) : Nat) else bs.toNat

/-- An integer of any length. -/
def integer? (e : Element) : Option Int :=
  if e.isUniversal 2 && !e.header.constructed then some (signedNumber e.contents) else none

/-- The octets of a string under any tag: the contents of a primitive element, or, for constructed
contents of indefinite length, the octets of the chunks in it one after another, which have the universal
tag `chunk`. `fuel` bounds the nesting. -/
def stringOctets (chunk : Nat) : (fuel : Nat) → Element → Option Bytes
  | fuel, e =>
    if !e.header.constructed then some e.contents
    else if e.header.length.isSome then none
    else
      match fuel with
      | 0 => none
      | fuel + 1 =>
        match readAll e.contents with
        | none => none
        | some chunks =>
          (chunks.mapM fun c : Element => if c.isUniversal chunk then stringOctets chunk fuel c else none).map
            List.flatten

/-- The octets of an octet string. -/
def octetString? (e : Element) : Option Bytes :=
  if e.isUniversal 4 then stringOctets 4 (e.contents.length + 1) e else none

/-- The octets of an octet string under the context tag `number`. -/
def implicitOctetString? (e : Element) (number : Nat) : Option Bytes :=
  if e.header.tagClass = .context ∧ e.header.number = number then
    stringOctets 4 (e.contents.length + 1) e
  else none

/-- Whether the element is null. -/
def isNull (e : Element) : Bool :=
  e.isUniversal 5 && !e.header.constructed

end Shroud.Ber.Element
