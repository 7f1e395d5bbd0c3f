import Shroud.Failure

/-!
# Passwords as octets

Key derivation takes a password as a sequence of big-endian sixteen-bit units followed by a terminator of
two zero octets. A text is given by its code points, surrogates included, because the two ways in which
a text can fail to have this form are reported differently: a code point above U+FFFF is looked for
first, anywhere in the text, and only then a surrogate.
-/

namespace Shroud.Password

/-- The two octets of a sixteen-bit unit. -/
def unitOctets (code : Nat) : Bytes :=
  [UInt8.ofNat (code / 256), UInt8.ofNat (code % 256)]

/-- Whether a code point is a surrogate. -/
def isSurrogate (code : Nat) : Bool :=
  0xd800 ≤ code && code ≤ 0xdfff

/-- **The password form of a text**: its units and the terminator, which an empty text has too. -/
def encode (codes : List Nat) : Except Failure Bytes :=
  if codes.any (0xffff < ·) then .error (.derivation .outsidePlane)
  else if codes.any isSurrogate then .error (.misuse .surrogate)
  else .ok (codes.flatMap unitOctets ++ [0, 0])

end Shroud.Password
