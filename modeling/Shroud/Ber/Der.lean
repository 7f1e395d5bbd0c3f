import Shroud.Ber.Element

/-!
# Distinguished encodings

The one way in which this library writes elements: lengths in the fewest octets, integers in the fewest
octets of two's complement, octet strings in one piece.
-/

namespace Shroud.Ber.Der

/-- A length: one octet below 128, otherwise the number of its octets and these. -/
def lengthOctets (n : Nat) : Bytes :=
  if n < 128 then [UInt8.ofNat n]
  else
    let width := Bytes.widthOf n
    UInt8.ofNat (128 + width) :: Bytes.ofNat width n

/-- An element with the given identifier octet. -/
def element (identifier : UInt8) (contents : Bytes) : Bytes :=
  identifier :: (lengthOctets contents.length ++ contents)

/-- A sequence of encoded elements. -/
def sequence (elements : List Bytes) : Bytes :=
  element 0x30 elements.flatten

/-- An octet string. -/
def octetString (bs : Bytes) : Bytes :=
  element 0x04 bs

/-- The number of binary digits. -/
def bitLength (n : Nat) : Nat :=
  if n = 0 then 0 else Nat.log2 n + 1

/-- An integer in the fewest octets of two's complement. -/
def integerContents (n : Int) : Bytes :=
  let magnitude := if n < 0 then (-(n + 1)).toNat else n.toNat
  let width := bitLength magnitude / 8 + 1
  Bytes.ofNat width (n % (Nat.pow 2 (8 * width) : Nat)).toNat

/-- An integer. -/
def integer (n : Int) : Bytes :=
  element 0x02 (integerContents n)

end Shroud.Ber.Der
