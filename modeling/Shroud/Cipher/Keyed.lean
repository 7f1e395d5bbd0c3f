import Shroud.Cipher.Des
import Shroud.Cipher.Rc2
import Shroud.Cipher.Mode

/-!
# Ciphers with a key

A `Cipher` is made from a key of an accepted size and opens modes until it is closed. Closing drops the
key; modes that were opened before have what they need and go on.
-/

namespace Shroud

/-- The two block ciphers. -/
inductive CipherFamily where
  | tripleDes
  | rc2
  deriving DecidableEq, Repr

/-- A block cipher with its key, or without it once it is closed. -/
structure Cipher where
  family : CipherFamily
  /-- The effective key length, where it can be chosen. -/
  effectiveBits : Option Int
  /-- The keyed permutation; none after closing. -/
  keyed : Option BlockCipher

namespace Cipher

/-- Three-key triple DES, for keys of 24 octets. -/
def tripleDes (key : Bytes) : Except Failure Cipher :=
  match Block.blocksOf key with
  | [k1, k2, k3] =>
    if key.length = 24 then
      .ok ⟨.tripleDes, none, some (Des.TripleKey.ofBlocks k1 k2 k3).cipher⟩
    else .error (.cipher (.tripleDesKey key.length))
  | _ => .error (.cipher (.tripleDesKey key.length))

/-- RC2 with `bits` effective bits: keys of 5 to 128 octets, and 40 to 1024 bits. -/
def rc2 (key : Bytes) (bits : Int) : Except Failure Cipher :=
  if key.length < 5 ∨ 128 < key.length then .error (.cipher (.rc2Key key.length))
  else if bits < 40 ∨ 1024 < bits then .error (Failure.cipher (.rc2Bits bits)).checked
  else .ok ⟨.rc2, some bits, some (Rc2.cipher (Rc2.keyWords key bits.toNat))⟩

/-- What a family says about an initialization vector that is not one block. -/
def CipherFamily.ivFault : CipherFamily → CipherFault
  | .tripleDes => .tripleDesIv
  | .rc2 => .rc2Parameters

/-- **Opening a mode.** The cipher must not be closed, and the vector must be one block. -/
def openMode (c : Cipher) (iv : Bytes) (label : String) : Except Failure Mode :=
  match c.keyed with
  | none => .error (.cipher .closed)
  | some keyed =>
    match Block.ofBytes? iv with
    | none => .error (.cipher (CipherFamily.ivFault c.family))
    | some chain => .ok ⟨keyed, label, chain⟩

/-- The cipher without its key. -/
def close (c : Cipher) : Cipher :=
  { c with keyed := none }

end Cipher

end Shroud
