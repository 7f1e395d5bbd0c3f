import Shroud.Bytes

/-!
# Message digests

A digest is a function on byte strings whose results all have one length. Key derivation asks nothing
else of it, so `Digest` carries the function, the two sizes and the proof of that length; the
statements about derivation hold for every `Digest`.

The concrete digests share one construction: the message is padded to whole 64-octet blocks
(`paddedMessage`), each block is read as sixteen big-endian words (`wordsOf`), and a compression step
is folded over the blocks.
-/

namespace Shroud

/-- A digest with outputs of `outputSize` octets, working on blocks of `blockSize` octets. -/
structure Digest where
  outputSize : Nat
  blockSize : Nat
  hash : Bytes → Bytes
  outputSize_pos : 0 < outputSize
  blockSize_pos : 0 < blockSize
  length_hash : ∀ message, (hash message).length = outputSize

namespace Digest

/-- `rounds` applications of the digest. -/
def iterate (H : Digest) : (rounds : Nat) → Bytes → Bytes
  | 0, message => message
  | rounds + 1, message => iterate H rounds (H.hash message)

/-! ### Shared construction -/

/-- The size of a block in octets. -/
def blockOctets : Nat := 64

theorem blockOctets_pos : 0 < blockOctets := Nat.succ_pos 63

/-- The message, one set bit, zeros, and the message's bit count in eight octets: whole blocks of
64 octets. -/
def paddedMessage (message : Bytes) : Bytes :=
  message ++ 0x80 :: List.replicate ((119 - message.length % 64) % 64) 0
    ++ Bytes.ofNat 8 (8 * message.length)

/-- The big-endian words of a byte string, four octets each. -/
def wordsOf : Bytes → List UInt32
  | a :: b :: c :: d :: rest =>
    ((a.toUInt32 <<< 24) ||| (b.toUInt32 <<< 16) ||| (c.toUInt32 <<< 8) ||| d.toUInt32)
      :: wordsOf rest
  | _ => []

/-- The four big-endian octets of a word. -/
def octetsOf (w : UInt32) : Bytes :=
  [(w >>> 24).toUInt8, (w >>> 16).toUInt8, (w >>> 8).toUInt8, w.toUInt8]

/-- Rotation to the left by `n` places, for `0 < n < 32`. -/
@[inline] def rotateLeft (w n : UInt32) : UInt32 :=
  (w <<< n) ||| (w >>> (32 - n))

/-- Rotation to the right by `n` places, for `0 < n < 32`. -/
@[inline] def rotateRight (w n : UInt32) : UInt32 :=
  (w >>> n) ||| (w <<< (32 - n))

@[simp] theorem length_octetsOf (w : UInt32) : (octetsOf w).length = 4 := rfl

end Digest

end Shroud
