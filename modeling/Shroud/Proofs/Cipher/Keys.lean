import Shroud.Cipher.Keyed
import Shroud.Proofs.Cipher.Des
import Shroud.Proofs.Cipher.Rc2

/-!
# Keys and the block ciphers they make

`CipherFamily.Under` says which block cipher belongs to a family, a key and a number of effective bits: triple
DES takes three keys of one block each, written one after the other, and does not look at the bits; RC2 takes
5 to 128 octets and 40 to 1024 bits. A cipher can be made exactly where there is one (`Cipher.exists_make`,
`Cipher.exists_under`), and holds it until it is closed. If all bits of the key count, only the size of the key
decides (`CipherFamily.Admits`), and a cipher that is refused names it (`Cipher.make_of_not_admits`).

Each of these block ciphers is lawful (`CipherFamily.Under.lawful`), so what is said of chaining need not know
the family.
-/

namespace Shroud

/-- **The block cipher of a family under a key.** -/
inductive CipherFamily.Under : CipherFamily → (key : Bytes) → (bits : Int) → BlockCipher → Prop
  | tripleDes (k₁ k₂ k₃ : Block) (bits : Int) :
      Under .tripleDes (Block.octetsOf [k₁, k₂, k₃]) bits (Des.TripleKey.ofBlocks k₁ k₂ k₃).cipher
  | rc2 {key : Bytes} {bits : Int} (hkey : 5 ≤ key.length ∧ key.length ≤ 128)
      (hbits : 40 ≤ bits ∧ bits ≤ 1024) :
      Under .rc2 key bits (Rc2.cipher (Rc2.keyWords key bits.toNat))

namespace CipherFamily.Under

/-- The cipher under any key that is admitted undoes itself. -/
theorem lawful {family : CipherFamily} {key : Bytes} {bits : Int} {keyed : BlockCipher}
    (h : family.Under key bits keyed) : keyed.Lawful := by
  cases h with
  | tripleDes k₁ k₂ k₃ => exact Des.TripleKey.lawful_cipher _
  | rc2 => exact Rc2.lawful_cipher _

/-- Any 24 octets are a triple key. -/
theorem exists_tripleDes {key : Bytes} (h : key.length = 24) (bits : Int) :
    ∃ keyed, CipherFamily.tripleDes.Under key bits keyed := by
  -- 24 octets are three blocks, one for each of the three keys
  have hoctets := Block.octetsOf_blocksOf (by omega : 8 ∣ key.length)
  have hblocks : (Block.blocksOf key).length = 3 := by
    have hlen := congrArg List.length hoctets
    rw [Block.length_octetsOf] at hlen
    omega
  obtain ⟨k₁, k₂, k₃, hkeys⟩ := List.length_eq_three.mp hblocks
  rw [← hoctets, hkeys]
  exact ⟨_, .tripleDes k₁ k₂ k₃ bits⟩

end CipherFamily.Under

namespace CipherFamily

/-- The sizes of a family's keys, in octets. -/
def Admits : CipherFamily → (size : Int) → Prop
  | .tripleDes, size => size = 24
  | .rc2, size => 5 ≤ size ∧ size ≤ 128

instance : (family : CipherFamily) → (size : Int) → Decidable (family.Admits size)
  | .tripleDes, size => inferInstanceAs (Decidable (size = 24))
  | .rc2, size => inferInstanceAs (Decidable (5 ≤ size ∧ size ≤ 128))

/-- What a family says about a key of any other size. -/
def keyFault : CipherFamily → (length : Nat) → CipherFault
  | .tripleDes, length => .tripleDesKey length
  | .rc2, length => .rc2Key length

/-- **All bits of a key** are as many as the family can take as effective. -/
theorem exists_under_of_admits {family : CipherFamily} {key : Bytes} (h : family.Admits key.length) :
    ∃ keyed, family.Under key (8 * key.length) keyed := by
  cases family with
  | tripleDes => exact Under.exists_tripleDes (Int.ofNat.inj h) _
  | rc2 =>
    obtain ⟨hlow, hhigh⟩ := h
    exact ⟨_, .rc2 (by omega) (by omega)⟩

end CipherFamily

namespace Cipher

/-- A cipher of either family; only RC2 looks at the effective bits. -/
def make : CipherFamily → (key : Bytes) → (bits : Int) → Except Failure Cipher
  | .tripleDes, key, _ => tripleDes key
  | .rc2, key, bits => rc2 key bits

variable {family : CipherFamily} {key : Bytes} {bits : Int}

/-- **Accepted keys.** A key that has a block cipher makes a cipher that holds it. -/
theorem exists_make {keyed : BlockCipher} (h : family.Under key bits keyed) :
    ∃ c, make family key bits = .ok c ∧ c.keyed = some keyed := by
  cases h with
  | tripleDes k₁ k₂ k₃ =>
    refine ⟨⟨.tripleDes, none, some (Des.TripleKey.ofBlocks k₁ k₂ k₃).cipher⟩, ?_, rfl⟩
    simp only [make, tripleDes, Block.blocksOf_octetsOf, Block.length_octetsOf]
    rfl
  | rc2 hkey hbits =>
    refine ⟨⟨.rc2, some bits, some (Rc2.cipher (Rc2.keyWords key bits.toNat))⟩, ?_, rfl⟩
    rw [make, rc2, if_neg (by omega), if_neg (by omega)]

/-- **What is made** is a cipher of the family, and holds the block cipher under the key. -/
theorem exists_eq_of_make {c : Cipher} (h : make family key bits = .ok c) :
    ∃ keyed effective, family.Under key bits keyed ∧ c = ⟨family, effective, some keyed⟩ := by
  cases family with
  | tripleDes =>
    simp only [make, tripleDes] at h
    split at h
    · next k₁ k₂ k₃ hkeys =>
      split at h
      · next hlen =>
        obtain rfl := Except.ok.inj h
        -- the length says that nothing of the key is left over behind its blocks
        rw [← Block.octetsOf_blocksOf (by omega : 8 ∣ key.length), hkeys]
        exact ⟨_, _, .tripleDes k₁ k₂ k₃ bits, rfl⟩
      · exact absurd h (by simp)
    · exact absurd h (by simp)
  | rc2 =>
    simp only [make, rc2] at h
    split at h
    · exact absurd h (by simp)
    · split at h
      · exact absurd h (by simp)
      · obtain rfl := Except.ok.inj h
        exact ⟨_, _, .rc2 (by omega) (by omega), rfl⟩

/-- A cipher that was made stands under its key. -/
theorem exists_under {c : Cipher} (h : make family key bits = .ok c) :
    ∃ keyed, family.Under key bits keyed ∧ c.keyed = some keyed := by
  obtain ⟨keyed, effective, hunder, rfl⟩ := exists_eq_of_make h
  exact ⟨keyed, hunder, rfl⟩

theorem family_of_make {c : Cipher} (h : make family key bits = .ok c) : c.family = family := by
  obtain ⟨keyed, effective, -, rfl⟩ := exists_eq_of_make h
  rfl

/-- **Refused keys.** The size of the key is looked at before the bits are. -/
theorem make_of_not_admits (h : ¬ family.Admits key.length) (bits : Int) :
    make family key bits = .error (.cipher (family.keyFault key.length)) := by
  cases family with
  | tripleDes =>
    have hlen : key.length ≠ 24 := fun hlen => h (congrArg Int.ofNat hlen)
    simp only [make, tripleDes]
    -- the key may have three whole blocks and still be too long
    split
    · rw [if_neg hlen]
      rfl
    · rfl
  | rc2 =>
    have hsize : key.length < 5 ∨ 128 < key.length := by
      by_contra hneither
      exact h ⟨by omega, by omega⟩
    rw [make, rc2, if_pos hsize]
    rfl

end Cipher

end Shroud
