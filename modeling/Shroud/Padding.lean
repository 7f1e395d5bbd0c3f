import Shroud.Failure

/-!
# Padding

A message is padded to whole blocks by between one and a block of octets, each of them the number of
padding octets. Unpadding looks at the last octet and at as many octets as it says; whatever is wrong, the
failure is the same. It works on a buffer of the caller, which is wiped in either case.
-/

namespace Shroud.Padding

/-- The message followed by its padding. -/
def pad (blockSize : Nat) (message : Bytes) : Bytes :=
  let count := blockSize - message.length % blockSize
  message ++ List.replicate count (UInt8.ofNat count)

/-- The last `n` octets, or all of them when there are fewer. -/
def lastOctets (n : Nat) (bs : Bytes) : Bytes :=
  bs.drop (bs.length - n)

/-- The plaintext of a padded buffer; none when the padding is not one of at most `blockSize` octets. -/
def strip? (blockSize : Int) (padded : Bytes) : Option Bytes :=
  match padded.getLast? with
  | none => none
  | some last =>
    let count := last.toNat
    if 1 ≤ count ∧ (count : Int) ≤ blockSize
        ∧ lastOctets count padded = List.replicate count last then
      some (padded.take (padded.length - count))
    else none

/-- **Unpadding a buffer**: the plaintext or the one failure of padding, and the buffer afterwards. Only
an empty buffer, which has no last octet, is refused otherwise. -/
def unpad (blockSize : Int) (buffer : Bytes) : Except Failure Bytes × Bytes :=
  if buffer.isEmpty then (.error (.misuse .emptyBuffer), buffer)
  else
    match strip? blockSize buffer with
    | some plaintext => (.ok plaintext, Bytes.wiped buffer)
    | none => (.error .padding, Bytes.wiped buffer)

end Shroud.Padding
