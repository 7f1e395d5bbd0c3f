import Shroud.Bytes

/-!
# Elements of the basic encoding rules

An encoded element is a header, contents, and for contents of indefinite length two closing zero octets.
Readers return what they read together with the rest of the input.

* `Header.read` reads the identifier (tag numbers from 31 on in their long form, without a leading zero
  group) and the length (short, long with any number of octets, or indefinite, which only constructed
  elements may have).
* `Element.read` reads one whole element. The end of indefinite contents is found by skipping elements
  until the closing zeros; an element more than ten levels below the one being read is refused.
* `Element.readAll` reads elements until the input ends.

An element remembers the octets of its header, so that it can be written back as it was
(`Element.octets`).
-/

namespace Shroud.Ber

/-- The class of a tag. -/
inductive TagClass where
  | universal
  | application
  | context
  | privateUse
  deriving DecidableEq, Repr

/-- The class that the two highest bits of an identifier octet give. -/
def TagClass.ofOctet (b : UInt8) : TagClass :=
  match b.toNat / 64 with
  | 0 => universal
  | 1 => application
  | 2 => context
  | _ => privateUse

/-- The header of an element, with the octets it was read from. -/
structure Header where
  tagClass : TagClass
  constructed : Bool
  number : Nat
  /-- The length of the contents; none when it is indefinite. -/
  length : Option Nat
  octets : Bytes
  deriving DecidableEq

/-- A tag number in groups of seven bits, after the groups that gave `n`: the number, its octets, and the
rest. A first group of zero is refused unless it is the last. -/
def readLongNumber : (n : Nat) → Bytes → Option (Nat × Bytes × Bytes)
  | _, [] => none
  | n, b :: bs =>
    if n = 0 ∧ b = 0x80 then none
    else
      let n := n * 128 + b.toNat % 128
      if b.toNat < 128 then some (n, [b], bs)
      else (readLongNumber n bs).map fun (m, octets, rest) => (m, b :: octets, rest)

/-- The tag number that an identifier octet starts, the octets that follow it, and the rest. -/
def readNumber (identifier : UInt8) (bs : Bytes) : Option (Nat × Bytes × Bytes) :=
  let n := identifier.toNat % 32
  if n < 31 then some (n, [], bs)
  else
    match readLongNumber 0 bs with
    | some (m, octets, rest) => if m < 31 then none else some (m, octets, rest)
    | none => none

/-- A length, its octets, and the rest; the length is none when it is indefinite. -/
def readLength : Bytes → Option (Option Nat × Bytes × Bytes)
  | [] => none
  | b :: bs =>
    if b.toNat < 128 then some (some b.toNat, [b], bs)
    else
      let k := b.toNat - 128
      if k = 0 then some (none, [b], bs)
      else if bs.length < k then none
      else some (some (Bytes.toNat (bs.take k)), b :: bs.take k, bs.drop k)

/-- A header and the rest. -/
def Header.read : Bytes → Option (Header × Bytes)
  | [] => none
  | identifier :: bs =>
    match readNumber identifier bs with
    | none => none
    | some (number, numberOctets, bs) =>
      match readLength bs with
      | none => none
      | some (length, lengthOctets, rest) =>
        let constructed := identifier.toNat / 32 % 2 == 1
        if length.isNone && !constructed then none
        else
          some (⟨TagClass.ofOctet identifier, constructed, number, length,
            identifier :: (numberOctets ++ lengthOctets)⟩, rest)

/-- The levels below an element that are looked through for its end. -/
def depthLimit : Nat := 10

/-- What follows the closing zeros, found by skipping one element after another; `fuel` bounds their
number. -/
def skipToEnd (skip : Bytes → Option Bytes) : (fuel : Nat) → Bytes → Option Bytes
  | _, 0 :: 0 :: rest => some rest
  | 0, _ => none
  | fuel + 1, bs =>
    match skip bs with
    | some rest => skipToEnd skip fuel rest
    | none => none

/-- What follows the first element of the input, looking through at most `depth` levels. -/
def skip : (depth : Nat) → Bytes → Option Bytes
  | 0, _ => none
  | depth + 1, bs =>
    match Header.read bs with
    | none => none
    | some (header, rest) =>
      match header.length with
      | some n => if n ≤ rest.length then some (rest.drop n) else none
      | none => skipToEnd (skip depth) rest.length rest

/-- An element: its header and its contents. -/
structure Element where
  header : Header
  contents : Bytes
  deriving DecidableEq

namespace Element

/-- The octets after the contents: two zeros when the length is indefinite. -/
def trailer (e : Element) : Bytes :=
  if e.header.length.isNone then [0, 0] else []

/-- **The element as it was read.** -/
def octets (e : Element) : Bytes :=
  e.header.octets ++ e.contents ++ e.trailer

/-- One element and the rest. -/
def read (bs : Bytes) : Option (Element × Bytes) :=
  match Header.read bs with
  | none => none
  | some (header, body) =>
    match header.length with
    | some n => if n ≤ body.length then some (⟨header, body.take n⟩, body.drop n) else none
    | none =>
      match skipToEnd (skip depthLimit) body.length body with
      | some rest => some (⟨header, body.take (body.length - rest.length - 2)⟩, rest)
      | none => none

/-- All elements of the input, of which there are at most `fuel`. -/
def readMany : (fuel : Nat) → Bytes → Option (List Element)
  | _, [] => some []
  | 0, _ => none
  | fuel + 1, bs =>
    match read bs with
    | none => none
    | some (e, rest) => (readMany fuel rest).map (e :: ·)

/-- All elements of the input. -/
def readAll (bs : Bytes) : Option (List Element) :=
  readMany bs.length bs

/-- Whether the element has this universal tag. -/
def isUniversal (e : Element) (number : Nat) : Bool :=
  e.header.tagClass = .universal && e.header.number == number

/-- Whether the header ends in the octet that marks an indefinite length. Some definite lengths end in
it too. -/
def endsInIndefiniteMark (e : Element) : Bool :=
  e.header.octets.getLast? == some 0x80

end Element

end Shroud.Ber
