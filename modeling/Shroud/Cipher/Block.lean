import Shroud.Bytes

/-!
# Blocks and block ciphers

Both ciphers work on blocks of eight octets. `Block.blocksOf` reads the whole blocks of a byte string
and `Block.octetsOf` writes blocks back. A `BlockCipher` is a cipher under one key: what it does to a
block in either direction.
-/

namespace Shroud

/-- The block size of the ciphers, in octets. -/
def blockSize : Nat := 8

/-- Eight octets. -/
abbrev Block := Vector UInt8 8

namespace Block

/-- The sum of two blocks modulo two, octet by octet. -/
def xor (a b : Block) : Block :=
  Vector.zipWith (· ^^^ ·) a b

/-- The whole blocks of a byte string; what is left over is dropped. -/
def blocksOf : Bytes → List Block
  | a :: b :: c :: d :: e :: f :: g :: h :: rest => #v[a, b, c, d, e, f, g, h] :: blocksOf rest
  | _ => []

/-- The octets of blocks, in order. -/
def octetsOf (blocks : List Block) : Bytes :=
  blocks.flatMap Vector.toList

/-- The block of exactly eight octets. -/
def ofBytes? : Bytes → Option Block
  | [a, b, c, d, e, f, g, h] => some #v[a, b, c, d, e, f, g, h]
  | _ => none

end Block

/-- A block cipher under one key. -/
structure BlockCipher where
  encrypt : Block → Block
  decrypt : Block → Block

end Shroud
