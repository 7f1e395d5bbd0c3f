import Mathlib.Tactic.IntervalCases
import Shroud.Cipher.Des
import Shroud.Proofs.Cipher.Block

/-!
# Triple DES is undone by its inverse

Decryption with a triple key undoes encryption with it, and the other way round (`TripleKey.lawful_cipher`).
A network of rounds undoes itself on exchanged halves and with the keys in reverse order, whatever the round
function is (`Feistel.run_reverse_swap`); so all that is left are rearrangements:

* two selections cancel when each table looks up the positions of the other (`select_cancel`), as the tables
  around the rounds do in either order;
* a word is its two halves, one after the other;
* a block and its bits determine each other.
-/

namespace Shroud.Des

/-! ### Rearrangements of bits -/

/-- Selecting by a table and then by one that looks up its positions. -/
theorem select_cancel {n : Nat} {s t : Vector (Fin n) n} (h : ∀ i, t.get (s.get i) = i) (x : Bits n) :
    select s (select t x) = x := by
  ext i hi
  have hpos : t[s[i].val] = (⟨i, hi⟩ : Fin n) := h ⟨i, hi⟩
  simp [select, hpos]

/-- The two tables around the rounds cancel -/
theorem select_initial_final (x : Bits 64) :
    select initialPermutation (select finalPermutation x) = x :=
  select_cancel (by decide) x

theorem select_final_initial (x : Bits 64) :
    select finalPermutation (select initialPermutation x) = x :=
  select_cancel (by decide) x

/-- Adding the same bits twice changes nothing. -/
theorem add_add_cancel {n : Nat} (a b : Bits n) : add (add a b) b = a := by
  ext i hi
  simp [add]

/-! ### Halves -/

@[simp] theorem leftHalf_append {n : Nat} (a b : Bits n) : leftHalf (a ++ b) = a := by
  ext i hi
  simp [leftHalf]

@[simp] theorem rightHalf_append {n : Nat} (a b : Bits n) : rightHalf (a ++ b) = b := by
  ext i hi
  simp [rightHalf]

/-- A word is its two halves, one after the other. -/
theorem leftHalf_append_rightHalf {n : Nat} (x : Bits (n + n)) : leftHalf x ++ rightHalf x = x := by
  ext i hi
  -- a position is in the left half, or in the right one `n` further back
  by_cases h : i < n
  · simp [leftHalf, h]
  · have hsum : n + (i - n) = i := by omega
    simp [rightHalf, h, Vector.getElem_append, hsum]

/-! ### The network -/

/-- **The network undoes itself** with its keys in reverse order. -/
theorem crypt_reverse_crypt (keys : List (Bits 48)) (x : Bits 64) :
    crypt keys.reverse (crypt keys x) = x := by
  set y : Bits (32 + 32) := select initialPermutation x with hy
  set p := Feistel.run add roundFunction keys (leftHalf y, rightHalf y) with hp
  have hcrypt : crypt keys x = select finalPermutation (p.2 ++ p.1 : Bits (32 + 32)) := rfl
  -- the second run starts with the halves exchanged, which is where it undoes the first
  have hback : Feistel.run add roundFunction keys.reverse (p.2, p.1)
      = (rightHalf y, leftHalf y) :=
    Feistel.run_reverse_swap add_add_cancel roundFunction keys (leftHalf y, rightHalf y)
  have hagain : select initialPermutation (crypt keys x) = (p.2 ++ p.1 : Bits (32 + 32)) := by
    rw [hcrypt, select_initial_final]
  unfold crypt at hagain ⊢
  simp only [hagain, leftHalf_append, rightHalf_append, hback, leftHalf_append_rightHalf]
  exact select_final_initial x

/-- **The network is undone**, whichever of the two orders of keys comes first. -/
theorem crypt_crypt_reverse (keys : List (Bits 48)) (x : Bits 64) :
    crypt keys (crypt keys.reverse x) = x := by
  have h := crypt_reverse_crypt keys.reverse x
  rwa [List.reverse_reverse] at h

/-! ### Blocks -/

/-- The bits of an octet are those that it was made from. -/
theorem getMsbD_octetOf (b0 b1 b2 b3 b4 b5 b6 b7 : Bool) (k : Nat) :
    (octetOf b0 b1 b2 b3 b4 b5 b6 b7).toBitVec.getMsbD k
      = [b0, b1, b2, b3, b4, b5, b6, b7].getD k false :=
  BitVec.getMsbD_ofBoolListBE

/-- An octet is made of its bits. -/
theorem octetOf_bits (o : UInt8) :
    octetOf (o.toBitVec.getMsbD 0) (o.toBitVec.getMsbD 1) (o.toBitVec.getMsbD 2)
      (o.toBitVec.getMsbD 3) (o.toBitVec.getMsbD 4) (o.toBitVec.getMsbD 5) (o.toBitVec.getMsbD 6)
      (o.toBitVec.getMsbD 7) = o := by
  refine UInt8.toBitVec_inj.mp (BitVec.eq_of_getMsbD_eq fun i hi => ?_)
  rw [getMsbD_octetOf]
  interval_cases i <;> rfl

/-- A block is made of its bits. -/
theorem blockOf_bitsOf (b : Block) : blockOf (bitsOf b) = b := by
  refine Vector.ext fun i hi => ?_
  -- the eight bits of the octet at `i` are at the positions from `8 * i` on
  have hdiv : ∀ k < 8, (8 * i + k) / 8 = i := by omega
  have hfirst : 8 * i / 8 = i := by omega
  simp only [blockOf, bitsOf, Vector.getElem_ofFn, Nat.mul_add_mod, Nat.mul_mod_right, hfirst]
  simpa [hdiv] using octetOf_bits b[i]

/-- The bits of a block are those that it was made from. -/
theorem bitsOf_blockOf (x : Bits 64) : bitsOf (blockOf x) = x := by
  refine Vector.ext fun i hi => ?_
  obtain ⟨q, k, hk, rfl⟩ : ∃ q k, k < 8 ∧ i = 8 * q + k :=
    ⟨i / 8, i % 8, Nat.mod_lt i (by omega), (Nat.div_add_mod i 8).symm⟩
  -- the octet at `q` was made from eight bits, of which the one at `k` is looked up
  have hq : (8 * q + k) / 8 = q := by omega
  have hr : (8 * q + k) % 8 = k := by omega
  simp only [bitsOf, blockOf, Vector.getElem_ofFn, getMsbD_octetOf, hq, hr]
  interval_cases k <;> rfl

/-- **A triple key is lawful.** Its decryption undoes its encryption, part by part from the last one
back, and the other way round. -/
theorem TripleKey.lawful_cipher (k : TripleKey) : k.cipher.Lawful where
  decrypt_encrypt b := by
    change k.decrypt (k.encrypt b) = b
    simp only [TripleKey.encrypt, TripleKey.decrypt, bitsOf_blockOf, crypt_reverse_crypt,
      crypt_crypt_reverse, blockOf_bitsOf]
  encrypt_decrypt b := by
    change k.encrypt (k.decrypt b) = b
    simp only [TripleKey.encrypt, TripleKey.decrypt, bitsOf_blockOf, crypt_reverse_crypt,
      crypt_crypt_reverse, blockOf_bitsOf]

end Shroud.Des
