import Shroud.Ber.Der
import Shroud.Ber.Primitive
import Shroud.Proofs.Ber.Grammar

/-!
# Distinguished encodings are read back

What is written by the distinguished encoding rules follows the grammar: a length (`definiteLength_lengthOctets`) and
an element (`Element.nests_ofContents`). So the readers give back an element (`Element.read_element`) and a row of
elements (`Element.readAll_elements`), and from the contents an integer of any size and sign
(`Element.signedNumber_integerContents`).

A length is written with the number of its octets in seven bits, so contents of `Der.lengthBound` octets or
more have no length. That is the only condition on what is written; no string of such a length exists
outside the theory.
-/

namespace Shroud.Ber

namespace Der

/-- The least number of octets that is no length: the octets of a length are counted in seven bits. -/
def lengthBound : Nat := 256 ^ 127

end Der

/-! ### Lengths -/

/-- A number fits into the octets of its width. -/
theorem lt_pow_widthOf (n : Nat) : n < 256 ^ Bytes.widthOf n := by
  unfold Bytes.widthOf
  split
  · next hzero => simp [hzero]
  · next hne =>
    -- as many octets as hold the binary digits
    have hlog : n.log2 + 1 ≤ 8 * (n.log2 / 8 + 1) := by omega
    have hpow : (256 : Nat) ^ (n.log2 / 8 + 1) = 2 ^ (8 * (n.log2 / 8 + 1)) := by
      rw [Nat.pow_mul]
    rw [hpow]
    exact lt_of_lt_of_le Nat.lt_log2_self (Nat.pow_le_pow_right (by decide) hlog)

/-- The width of a number is the least that it fits into. -/
theorem widthOf_le {n width : Nat} (h : n < 256 ^ width) : Bytes.widthOf n ≤ width := by
  unfold Bytes.widthOf
  split
  · exact Nat.zero_le _
  · next hne =>
    have hpow : (256 : Nat) ^ width = 2 ^ (8 * width) := by rw [Nat.pow_mul]
    rw [hpow] at h
    have hlog := (Nat.log2_lt hne).mpr h
    omega

/-- A length below the bound is written in 128 octets at most. -/
theorem length_lengthOctets_le {n : Nat} (h : n < Der.lengthBound) : (Der.lengthOctets n).length ≤ 128 := by
  unfold Der.lengthOctets
  split
  · simp
  · have hwidth : Bytes.widthOf n ≤ 127 := widthOf_le h
    rw [List.length_cons, Bytes.length_ofNat]
    omega

theorem widthOf_pos {n : Nat} (h : n ≠ 0) : 0 < Bytes.widthOf n := by
  rw [Bytes.widthOf, if_neg h]
  exact Nat.succ_pos _

/-- **A length is written as the grammar has it.** -/
theorem definiteLength_lengthOctets {n : Nat} (h : n < Der.lengthBound) : DefiniteLength n (Der.lengthOctets n) := by
  unfold Der.lengthOctets
  split
  · next hshort => exact .short hshort
  · next hlong =>
    -- the first octet counts the others in seven bits, which is where the bound comes in
    have hcount : Bytes.widthOf n ≤ 127 := widthOf_le h
    have hpos := @widthOf_pos n (by omega)
    have hlength := Bytes.length_ofNat (Bytes.widthOf n) n
    have hdefinite := @DefiniteLength.long (Bytes.ofNat (Bytes.widthOf n) n) (by omega) (by omega)
    rwa [hlength, Bytes.toNat_ofNat_of_lt (lt_pow_widthOf n)] at hdefinite

/-! ### Elements -/

namespace Element

/-- The element that an identifier octet and contents make when they are written. -/
def ofContents (identifier : UInt8) (contents : Bytes) : Element where
  header :=
    { tagClass := TagClass.ofOctet identifier
      constructed := identifier.toNat / 32 % 2 == 1
      number := identifier.toNat % 32
      length := some contents.length
      octets := identifier :: Der.lengthOctets contents.length }
  contents := contents

/-- **An element is written as the grammar has it.** -/
theorem nests_ofContents {identifier : UInt8} (htag : identifier.toNat % 32 < 31) {contents : Bytes}
    (h : contents.length < Der.lengthBound) (depth : Nat) : (ofContents identifier contents).Nests (depth + 1) := by
  refine .definite ?_ rfl
  exact .mk (.within htag) (.definite (definiteLength_lengthOctets h)) (by simp)

/-- An element of given contents has the distinguished form. -/
theorem octets_ofContents (identifier : UInt8) (contents : Bytes) :
    (ofContents identifier contents).octets = Der.element identifier contents := by
  rw [octets_of_definite rfl]
  rfl

/-- **An element is read back**, and nothing of what stands behind it. -/
theorem read_element {identifier : UInt8} (htag : identifier.toNat % 32 < 31) {contents : Bytes}
    (h : contents.length < Der.lengthBound) (rest : Bytes) :
    read (Der.element identifier contents ++ rest) = some (ofContents identifier contents, rest) := by
  rw [read_eq_some_iff, octets_ofContents]
  exact ⟨nests_ofContents htag h depthLimit, rfl⟩

theorem length_element (identifier : UInt8) (contents : Bytes) :
    (Der.element identifier contents).length
      = 1 + (Der.lengthOctets contents.length).length + contents.length := by
  simp only [Der.element, List.length_cons, List.length_append]
  omega

/-- An element is longer than its contents. -/
theorem length_lt_length_element (identifier : UInt8) (contents : Bytes) :
    contents.length < (Der.element identifier contents).length := by
  rw [length_element]
  omega

/-- **A row of elements is read back** one by one. -/
theorem readAll_elements {items : List (UInt8 × Bytes)}
    (htag : ∀ item ∈ items, item.1.toNat % 32 < 31)
    (h : ∀ item ∈ items, item.2.length < Der.lengthBound) :
    readAll (items.flatMap fun item => Der.element item.1 item.2)
      = some (items.map fun item => ofContents item.1 item.2) := by
  rw [readAll_eq_some_iff, List.flatMap_map]
  simp only [octets_ofContents, and_true, List.forall_mem_map]
  exact fun item hitem => nests_ofContents (htag item hitem) (h item hitem) depthLimit

/-! ### Integers -/

theorem toNat_cons (b : UInt8) (bs : Bytes) :
    Bytes.toNat (b :: bs) = b.toNat * 256 ^ bs.length + Bytes.toNat bs := by
  have h := Bytes.toNat_append [b] bs
  simpa [Bytes.toNat] using h

/-- **Two's complement is the remainder of least magnitude.** -/
theorem signedNumber_eq_bmod (bs : Bytes) :
    signedNumber bs = Int.bmod (bs.toNat : Int) (256 ^ bs.length) := by
  have hpow : Nat.pow 2 (8 * bs.length) = 256 ^ bs.length := by
    change 2 ^ (8 * bs.length) = 256 ^ bs.length
    rw [Nat.pow_mul]
  have hlt := Bytes.toNat_lt bs
  have hmod : (bs.toNat : Int) % ((256 ^ bs.length : Nat) : Int) = bs.toNat :=
    Int.emod_eq_of_lt (by omega) (by exact_mod_cast hlt)
  unfold signedNumber
  rw [hpow, Int.bmod_def, hmod]
  cases bs with
  | nil => rfl
  | cons b bs =>
    -- the first octet decides on which side of half the modulus the number lies
    have htail := Bytes.toNat_lt bs
    have hb := b.toNat_lt
    rw [toNat_cons, List.length_cons, pow_succ, List.headD_cons]
    generalize 256 ^ bs.length = m at htail
    by_cases hsign : 128 ≤ b.toNat
    · have hhigh : 128 * m ≤ b.toNat * m := Nat.mul_le_mul_right m hsign
      rw [if_pos hsign, if_neg (by omega)]
    · have hlow : b.toNat * m ≤ 127 * m := Nat.mul_le_mul_right m (by omega)
      rw [if_neg hsign, if_pos (by omega)]

/-- One octet more than the bits fill leaves room for the sign. -/
theorem lt_pow_bitLength (n : Nat) : n * 2 < 256 ^ (Der.bitLength n / 8 + 1) := by
  have hbits : n < 2 ^ Der.bitLength n := by
    unfold Der.bitLength
    split
    · next hzero => simp [hzero]
    · exact Nat.lt_log2_self
  -- one binary digit is left over for the sign
  have hwidth : Der.bitLength n + 1 ≤ 8 * (Der.bitLength n / 8 + 1) := by omega
  calc n * 2 < 2 ^ Der.bitLength n * 2 := by omega
    _ = 2 ^ (Der.bitLength n + 1) := (pow_succ ..).symm
    _ ≤ 2 ^ (8 * (Der.bitLength n / 8 + 1)) := Nat.pow_le_pow_right (by decide) hwidth
    _ = 256 ^ (Der.bitLength n / 8 + 1) := by rw [Nat.pow_mul]

/-- Integers of bounded size have few octets. -/
theorem length_integerContents_le {n : Int} {width : Nat} (h : n.natAbs ≤ 256 ^ width) :
    (Der.integerContents n).length ≤ width + 1 := by
  -- the octets are counted by bits, eight to each of them
  have hbits : ∀ m : Nat, m ≤ 256 ^ width → Der.bitLength m / 8 ≤ width := by
    intro m hm
    unfold Der.bitLength
    split
    · exact Nat.zero_le _
    · next hne =>
      have hpow : (256 : Nat) ^ width = 2 ^ (8 * width) := by rw [Nat.pow_mul]
      have hlog : m.log2 < 8 * width + 1 := by
        rw [Nat.log2_lt hne, pow_succ]
        omega
      omega
  unfold Der.integerContents
  rw [Bytes.length_ofNat]
  refine Nat.succ_le_succ (hbits _ ?_)
  split <;> omega

/-- **An integer is read back**, whatever its size and sign. -/
theorem signedNumber_integerContents (n : Int) : signedNumber (Der.integerContents n) = n := by
  simp only [Der.integerContents]
  set magnitude := if n < 0 then (-(n + 1)).toNat else n.toNat with hmagnitude
  set width := Der.bitLength magnitude / 8 + 1
  have hpow : Nat.pow 2 (8 * width) = 256 ^ width := by
    change 2 ^ (8 * width) = 256 ^ width
    rw [Nat.pow_mul]
  have hbound : magnitude * 2 < 256 ^ width := lt_pow_bitLength magnitude
  have hpos : (0 : Int) < ((256 ^ width : Nat) : Int) := by exact_mod_cast Nat.pow_pos (by decide)
  have hnonneg := Int.emod_nonneg n hpos.ne'
  have hlt := Int.emod_lt_of_pos n hpos
  have hoctets : (n % ((256 ^ width : Nat) : Int)).toNat < 256 ^ width := by omega
  rw [hpow, signedNumber_eq_bmod, Bytes.length_ofNat, Bytes.toNat_ofNat_of_lt hoctets,
    Int.toNat_of_nonneg hnonneg, Int.emod_bmod]
  -- the modulus is even, so the least negative number has no positive counterpart
  have heven : 256 ^ width % 2 = 0 := by
    rw [Nat.pow_mod]
    simp [width]
  refine Int.bmod_eq_of_le ?_ ?_ <;> split at hmagnitude <;> omega

end Element

end Shroud.Ber
