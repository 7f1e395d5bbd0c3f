import Shroud.Digest.Basic

/-!
# SHA-1

The 160-bit digest with five chaining words and eighty steps per block. `Digest.sha1` packages it with
its sizes: 20 octets out, blocks of 64.
-/

namespace Shroud.Digest.Sha1

/-- The chaining value. -/
structure State where
  a : UInt32
  b : UInt32
  c : UInt32
  d : UInt32
  e : UInt32

/-- The chaining value before the first block. -/
def initial : State :=
  ⟨0x67452301, 0xefcdab89, 0x98badcfe, 0x10325476, 0xc3d2e1f0⟩

/-- The eighty words of one block: the sixteen read, then each the rotated sum modulo two of four
earlier ones. -/
def schedule (block : Array UInt32) : Array UInt32 :=
  (List.range' 16 64).foldl (fun w t =>
    w.push (rotateLeft (w.getD (t - 3) 0 ^^^ w.getD (t - 8) 0 ^^^ w.getD (t - 14) 0
      ^^^ w.getD (t - 16) 0) 1)) block

/-- The step function of step `t`: choice, parity, majority, parity, for twenty steps each. -/
@[inline] def mix (t : Nat) (b c d : UInt32) : UInt32 :=
  if t < 20 then (b &&& c) ||| (~~~b &&& d)
  else if t < 40 then b ^^^ c ^^^ d
  else if t < 60 then (b &&& c) ||| (b &&& d) ||| (c &&& d)
  else b ^^^ c ^^^ d

/-- The constant of step `t`. -/
@[inline] def constant (t : Nat) : UInt32 :=
  if t < 20 then 0x5a827999
  else if t < 40 then 0x6ed9eba1
  else if t < 60 then 0x8f1bbcdc
  else 0xca62c1d6

/-- One of the eighty steps. -/
@[inline] def step (w : Array UInt32) (s : State) (t : Nat) : State :=
  ⟨rotateLeft s.a 5 + mix t s.b s.c s.d + s.e + constant t + w.getD t 0,
    s.a, rotateLeft s.b 30, s.c, s.d⟩

/-- The chaining value after one more block. -/
def compress (s : State) (block : Bytes) : State :=
  let w := schedule (wordsOf block).toArray
  let s' := (List.range 80).foldl (step w) s
  ⟨s.a + s'.a, s.b + s'.b, s.c + s'.c, s.d + s'.d, s.e + s'.e⟩

/-- The digest's octets, read off the last chaining value. -/
def State.octets (s : State) : Bytes :=
  octetsOf s.a ++ octetsOf s.b ++ octetsOf s.c ++ octetsOf s.d ++ octetsOf s.e

/-- The SHA-1 digest of a message. -/
def hash (message : Bytes) : Bytes :=
  ((Bytes.pieces blockOctets (paddedMessage message)).foldl compress initial).octets

end Sha1

/-- SHA-1: 20 octets from blocks of 64. -/
def sha1 : Digest where
  outputSize := 20
  blockSize := blockOctets
  hash := Sha1.hash
  outputSize_pos := Nat.succ_pos 19
  blockSize_pos := blockOctets_pos
  length_hash _ := rfl

end Shroud.Digest
