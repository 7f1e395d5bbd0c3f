import Shroud.Bytes

/-!
# Character sets

The types of elements that hold a text differ in how its characters are encoded. `Charset.ofType` tells
which encoding a type has, and `Charset.admits` whether octets are a text in it.
-/

namespace Shroud.Ber

/-- How the characters of a text are encoded. -/
inductive Charset where
  /-- Seven bits in an octet. -/
  | ascii
  /-- One octet, all of which are used. -/
  | latin
  /-- One octet, some of which are not used. -/
  | teletex
  /-- One to four octets. -/
  | utf8
  /-- Units of two octets, one or two of them. -/
  | utf16
  /-- Units of four octets. -/
  | utf32
  deriving DecidableEq, Repr

namespace Charset

/-- The encoding of the texts of a universal type. -/
def ofType : Nat → Charset
  | 12 => utf8
  | 20 => teletex
  | 22 => ascii
  | 28 => utf32
  | 30 => utf16
  | _ => latin

/-- The octets that are not used in teletex texts. -/
def unusedInTeletex (b : UInt8) : Bool :=
  [0x23, 0x24, 0x5c, 0x5e, 0x60, 0x7b, 0x7d, 0x7e, 0xa9, 0xaa, 0xac, 0xad, 0xae, 0xaf, 0xb9, 0xba, 0xc0,
      0xc9, 0xe5, 0xff].contains b
    || (0xd0 ≤ b && b ≤ 0xdf)

/-- Whether units of two octets are characters: the first half of a pair is followed by the second. -/
def isUtf16 : Bytes → Bool
  | [] => true
  | [_] => false
  | high :: _ :: rest =>
    if 0xd8 ≤ high && high ≤ 0xdb then
      match rest with
      | high' :: _ :: rest' => 0xdc ≤ high' && high' ≤ 0xdf && isUtf16 rest'
      | _ => false
    else !(0xdc ≤ high && high ≤ 0xdf) && isUtf16 rest

/-- Whether units of four octets are characters. -/
def isUtf32 : Bytes → Bool
  | [] => true
  | a :: b :: c :: d :: rest => decide (Bytes.toNat [a, b, c, d]).isValidChar && isUtf32 rest
  | _ => false

/-- **Whether octets are a text.** -/
def admits : Charset → Bytes → Bool
  | ascii, bs => bs.all (· < 0x80)
  | latin, _ => true
  | teletex, bs => !bs.any unusedInTeletex
  | utf8, bs => (String.fromUTF8? ⟨bs.toArray⟩).isSome
  | utf16, bs => isUtf16 bs
  | utf32, bs => isUtf32 bs

end Charset

end Shroud.Ber
