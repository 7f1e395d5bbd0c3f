import Mathlib.Data.List.Basic
import Mathlib.Tactic.IntervalCases
import Shroud.Cipher.Block

/-!
# Blocks and what a cipher promises of them

Data of whole blocks and its blocks determine each other (`Block.octetsOf_blocksOf`,
`Block.blocksOf_octetsOf`). A cipher under one key is lawful (`BlockCipher.Lawful`) when its two directions
undo each other in either order; chaining asks nothing else of it.
-/

namespace Shroud

/-- The two directions of a cipher undo each other. -/
structure BlockCipher.Lawful (c : BlockCipher) : Prop where
  decrypt_encrypt : ∀ b, c.decrypt (c.encrypt b) = b
  encrypt_decrypt : ∀ b, c.encrypt (c.decrypt b) = b

namespace Block

/-- Adding the same block twice changes nothing; this is what undoes the chaining. -/
@[simp] theorem xor_xor_cancel (a b : Block) : xor (xor a b) b = a := by
  ext i hi
  simp only [xor, Vector.getElem_zipWith]
  rw [UInt8.xor_assoc, UInt8.xor_self, UInt8.xor_zero]

/-! ### Octets and blocks -/

@[simp] theorem octetsOf_cons (b : Block) (bs : List Block) :
    octetsOf (b :: bs) = b.toList ++ octetsOf bs := rfl

@[simp] theorem length_octetsOf (bs : List Block) : (octetsOf bs).length = 8 * bs.length := by
  induction bs with
  | nil => rfl
  | cons b bs ih =>
    rw [octetsOf_cons, List.length_append, ih, Vector.length_toList, List.length_cons]
    omega

/-- A block is eight octets. -/
theorem exists_octets (b : Block) :
    ∃ x₀ x₁ x₂ x₃ x₄ x₅ x₆ x₇, b = #v[x₀, x₁, x₂, x₃, x₄, x₅, x₆, x₇] := by
  refine ⟨b[0], b[1], b[2], b[3], b[4], b[5], b[6], b[7], Vector.ext fun i hi => ?_⟩
  interval_cases i <;> rfl

/-- A block in front of octets is the first that is cut off. -/
theorem blocksOf_toList_append (b : Block) (rest : Bytes) :
    blocksOf (b.toList ++ rest) = b :: blocksOf rest := by
  -- the reader wants to see eight octets
  obtain ⟨x₀, x₁, x₂, x₃, x₄, x₅, x₆, x₇, rfl⟩ := b.exists_octets
  rfl

/-- **The blocks of octets of blocks** are these blocks. -/
@[simp] theorem blocksOf_octetsOf (bs : List Block) : blocksOf (octetsOf bs) = bs := by
  induction bs with
  | nil => rfl
  | cons b bs ih => rw [octetsOf_cons, blocksOf_toList_append, ih]

/-- **The octets of the blocks of data** are the data, if it is a number of whole blocks. -/
theorem octetsOf_blocksOf {data : Bytes} (h : 8 ∣ data.length) : octetsOf (blocksOf data) = data := by
  obtain ⟨n, hn⟩ := h
  induction n generalizing data with
  | zero =>
    rw [List.eq_nil_of_length_eq_zero (by omega : data.length = 0)]
    rfl
  | succ n ih =>
    have hfirst : (data.take 8).length = 8 := by
      rw [List.length_take]
      omega
    have hrest : (data.drop 8).length = 8 * n := by
      rw [List.length_drop]
      omega
    -- the first eight octets are a block, and the induction takes the rest
    let b : Block := ⟨(data.take 8).toArray, by simpa using hfirst⟩
    have hsplit : b.toList ++ data.drop 8 = data := List.take_append_drop 8 data
    rw [← hsplit, blocksOf_toList_append, octetsOf_cons, ih hrest]

/-- A block is made of its own octets only. -/
theorem ofBytes?_eq_some_iff {bs : Bytes} {b : Block} : ofBytes? bs = some b ↔ b.toList = bs := by
  constructor
  · intro h
    unfold ofBytes? at h
    split at h
    · obtain rfl := Option.some.inj h
      rfl
    · exact absurd h (by simp)
  · rintro rfl
    obtain ⟨x₀, x₁, x₂, x₃, x₄, x₅, x₆, x₇, rfl⟩ := b.exists_octets
    rfl

/-- Any eight octets are a block. -/
theorem exists_toList_eq_iff {bs : Bytes} : (∃ b : Block, b.toList = bs) ↔ bs.length = 8 := by
  constructor
  · rintro ⟨b, rfl⟩
    exact b.length_toList
  · intro h
    exact ⟨⟨bs.toArray, by simpa using h⟩, rfl⟩

end Block

end Shroud
