import Shroud.Proofs.Ber.Values

/-!
# How long values and their encodings are

What was read is sometimes written in another form, and then its new length must be one that the distinguished
encoding rules can express. A value is not longer than the element that it was read from (`Element.Spells.length_le`,
`Element.IsInteger.length_integerContents_le`), and an element is not much more than twice as long as its contents
(`Element.length_element_le`). So whatever this library writes with octets that are `Der.Short` has a length.
-/

namespace Shroud.Ber

namespace Der

/-- **So few octets that what is written with them has a length.** The factor is more than the levels of any structure
here add to its parts. No string outside the theory is longer. -/
def Short (n : Nat) : Prop :=
  256 * n < lengthBound

instance (n : Nat) : Decidable (Short n) :=
  inferInstanceAs (Decidable (256 * n < lengthBound))

/-- What is short stays below the bound of lengths, with room for what stands around it. -/
theorem Short.lt {m n : Nat} (h : Short n) (hle : m ≤ 128 * n + 128) : m < lengthBound := by
  have hbound : 256 ≤ lengthBound := by decide
  unfold Short at h
  omega

end Der

/-! ### Elements and their contents -/

/-- A length is written in as many octets as itself at most, and one more. -/
theorem length_lengthOctets_le_succ (n : Nat) : (Der.lengthOctets n).length ≤ n + 1 := by
  unfold Der.lengthOctets
  split
  · simp
  · have hwidth : Bytes.widthOf n ≤ n := widthOf_le (Nat.lt_pow_self (by decide))
    rw [List.length_cons, Bytes.length_ofNat]
    omega

namespace Element

variable {e : Element}

/-- An element is at most twice as long as its contents. -/
theorem length_element_le (identifier : UInt8) (contents : Bytes) :
    (Der.element identifier contents).length ≤ 2 * contents.length + 2 := by
  have hheader := length_lengthOctets_le_succ contents.length
  rw [length_element]
  omega

/-! ### Elements and their values -/

/-- **A string is not longer than what spells it.** -/
theorem Spells.length_le {chunk : Nat} {s : Bytes} (h : e.Spells chunk s) : s.length ≤ e.contents.length := by
  induction h with
  | primitive _ => exact Nat.le_refl _
  | chunked _ _ hwell _ _ ih =>
    rw [List.length_flatMap, List.length_flatMap]
    apply List.sum_le_sum
    intro c hc
    exact (ih c hc).trans (length_contents_lt (hwell c hc)).le

/-- **An integer in the fewest octets** takes at most one octet more than where it was read, where no octets stand for
zero. -/
theorem IsInteger.length_integerContents_le {n : Int} (h : e.IsInteger n) :
    (Der.integerContents n).length ≤ e.contents.length + 1 := by
  apply Element.length_integerContents_le
  have hpos : 0 < 256 ^ e.contents.length := Nat.pow_pos (by decide)
  have hlow := Int.le_bmod (x := (Bytes.toNat e.contents : Int)) hpos
  have hhigh := Int.bmod_le (x := (Bytes.toNat e.contents : Int)) hpos
  rw [← h.value] at hlow hhigh
  omega

/-- The first two children fit into their sequence. -/
theorem IsSequence.length_add_le {first second : Element} {more : List Element}
    (h : e.IsSequence (first :: second :: more)) :
    first.octets.length + second.octets.length ≤ e.contents.length := by
  rw [h.contents, List.flatMap_cons, List.flatMap_cons, List.length_append, List.length_append]
  omega

end Element

end Shroud.Ber
