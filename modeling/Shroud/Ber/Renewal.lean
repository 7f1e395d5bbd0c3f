import Shroud.Ber.Charset
import Shroud.Ber.ObjectIdentifier
import Shroud.Ber.Time

/-!
# Elements written anew

An element that no structure prescribes is taken for what the number of its tag says, whatever the class of
the tag and whether or not it is constructed. Written anew (`Element.renewed`), it keeps its class, its
number and its method, except that a string in chunks becomes one piece. Its length takes the fewest octets,
and so do truth values, integers, identifiers and moments. A sequence keeps its contents, and stays as it is
unless its header ends in the octet that marks an indefinite length. Other structures about whose elements
nothing is known lose them.
-/

namespace Shroud.Ber.Element

/-- The types that are known. -/
def isKnownType (number : Nat) : Bool :=
  (1 ≤ number && number ≤ 13) || (16 ≤ number && number ≤ 30)

/-- The types whose values may be written in chunks. -/
def chunkedTypes : List Nat := [3, 4, 12, 18, 19, 20, 21, 22, 23, 24, 25, 26, 27, 28, 29, 30]

/-- Whether the length is indefinite. -/
def isIndefinite (e : Element) : Bool :=
  e.header.length.isNone

/-! ### Values in chunks -/

/-- Whether the element may be a chunk of a value of a type. -/
def isChunk (e : Element) (number : Nat) : Bool :=
  e.isUniversal number && (!e.header.constructed || e.isIndefinite)

/-- What the chunks in a row stand for, which are chunks of a type or made of such; `piece` tells it of a
single piece. `fuel` bounds their number. -/
def chunkPieces {α : Type} (number : Nat) (piece : Bytes → Except Fault α) :
    (fuel : Nat) → Bytes → Except Fault (List α)
  | _, [] => .ok []
  | 0, _ => .error .malformed
  | fuel + 1, bs =>
    match read bs with
    | none => .error .malformed
    | some (chunk, rest) =>
      if !chunk.isChunk number then .error .malformed
      else do
        let first ← if chunk.header.constructed then chunkPieces number piece fuel chunk.contents
          else (piece chunk.contents).map ([·])
        let others ← chunkPieces number piece fuel rest
        return first ++ others

/-- What the pieces of a value stand for: only a value of indefinite length has more than one. -/
def pieces {α : Type} (e : Element) (piece : Bytes → Except Fault α) : Except Fault (List α) :=
  if e.isIndefinite then chunkPieces e.header.number piece (e.contents.length + 1) e.contents
  else (piece e.contents).map ([·])

/-- The octets of a string. -/
def joinedOctets (e : Element) : Except Fault Bytes :=
  (e.pieces .ok).map List.flatten

/-- The octets of a text in its character set. A character may start in one chunk and end in another. -/
def textOctets (e : Element) : Except Fault Bytes := do
  let octets ← e.joinedOctets
  if (Charset.ofType e.header.number).admits octets then return octets else throw .undecodable

/-! ### Bit strings -/

/-- A piece of a bit string: how many bits of the last octet are not used, and the octets. -/
structure Bits where
  unused : Nat
  octets : Bytes

/-- A piece of a bit string: the first octet counts the unused bits. -/
def bitsOf : Bytes → Except Fault Bits
  | [] => .error .noUnusedCount
  | count :: octets =>
    if count ≠ 0 ∧ (octets = [] ∨ 7 < count) then .error .malformed
    else .ok ⟨count.toNat, octets⟩

/-- Pieces of a bit string put together; only the last one may have unused bits. -/
def joinedBits : List Bits → Except Fault Bits
  | [] => .ok ⟨0, []⟩
  | [last] => .ok last
  | first :: rest => do
    let joined ← joinedBits rest
    if first.unused ≠ 0 then throw .malformed
    else return ⟨joined.unused, first.octets ++ joined.octets⟩

/-- Octets with the last bits zero. -/
def cleared (unused : Nat) (octets : Bytes) : Bytes :=
  match octets.getLast? with
  | none => []
  | some last => octets.dropLast ++ [UInt8.ofNat (last.toNat / Nat.pow 2 unused * Nat.pow 2 unused)]

/-- The contents of a bit string in one piece, the unused bits zero. -/
def bitContents (e : Element) : Except Fault Bytes := do
  let bits ← joinedBits (← e.pieces bitsOf)
  return UInt8.ofNat bits.unused :: cleared bits.unused bits.octets

/-! ### The element anew -/

/-- The contents anew, by the number of the tag. -/
def renewedContents (e : Element) : Except Fault Bytes :=
  match e.header.number with
  | 1 => .ok [if e.contents = [0] then 0 else 0xff]
  | 2 => .ok (Der.integerContents (signedNumber e.contents))
  | 3 => e.bitContents
  | 4 | 21 => e.joinedOctets
  | 5 => .ok []
  | 6 | 13 =>
    match ObjectIdentifier.renewed? e.contents with
    | some contents => .ok contents
    | none => .error .malformed
  | 7 | 8 | 9 => .error .formless
  | 10 => .error .unlisted
  | 11 => if (readAll e.contents).isSome then .ok [] else .error .malformed
  | 16 => .ok e.contents
  | 17 => if e.contents = [] then .ok [] else .error .malformed
  | 23 => e.joinedOctets.bind Time.renewShort
  | 24 => e.joinedOctets.bind Time.renewGeneral
  | _ => e.textOctets

/-- The identifier octet anew: what was in chunks is in one piece. -/
def renewedIdentifier (e : Element) : UInt8 :=
  let identifier := e.header.octets.headD 0
  if e.isIndefinite && chunkedTypes.contains e.header.number then identifier &&& 0xdf else identifier

/-- **The element anew.** Where the header does not end in the mark of an indefinite length, a sequence
stays as it is, and null keeps its header and loses its contents. -/
def renewed (e : Element) : Except Fault Bytes :=
  if !isKnownType e.header.number then .error .malformed
  else if e.header.number = 16 && !e.endsInIndefiniteMark then .ok e.octets
  else if e.header.number = 5 && !e.endsInIndefiniteMark then .ok e.header.octets
  else e.renewedContents.map (Der.element e.renewedIdentifier)

end Shroud.Ber.Element
