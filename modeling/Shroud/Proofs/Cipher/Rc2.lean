import Mathlib.Tactic.IntervalCases
import Shroud.Cipher.Rc2
import Shroud.Proofs.Cipher.Block

/-!
# RC2 is undone by its inverse

Decryption under expanded key words undoes encryption under them, and the other way round
(`lawful_cipher`), whatever the key words are. Every step has an inverse: a mixing step turns back the
rotation of each word and takes away what was added, last word first, when the words that chose the sum are
the ones that the forward step had; a mashing step does the same with key words. A list of steps is undone
by the inverse steps in reverse order (`foldl_backward_forward`), by induction on the list.
-/

namespace Shroud.Rc2

/-! ### Steps -/

theorem rotateRight_rotateLeft (w : Word) {n : Nat} (h : n < 16) :
    (w.rotateLeft n).rotateRight n = w := by
  refine BitVec.eq_of_getLsbD_eq fun i hi => ?_
  rw [BitVec.getLsbD_rotateRight_of_lt h, BitVec.getLsbD_rotateLeft_of_le h,
    BitVec.getLsbD_rotateLeft_of_le h]
  -- a bit that was not carried around is found `n` places up, the others at the bottom
  by_cases hlow : i < 16 - n
  · have hsum : n + i < 16 := by omega
    simp [hlow, hsum]
  · have hwrap : i - (16 - n) < n := by omega
    have hback : 16 - n + (i - (16 - n)) = i := by omega
    simp [hlow, hi, hwrap, hback]

theorem rotateLeft_rotateRight (w : Word) {n : Nat} (h : n < 16) :
    (w.rotateRight n).rotateLeft n = w := by
  refine BitVec.eq_of_getLsbD_eq fun i hi => ?_
  rw [BitVec.getLsbD_rotateLeft_of_le h, BitVec.getLsbD_rotateRight_of_lt h,
    BitVec.getLsbD_rotateRight_of_lt h]
  -- a bit in front of the cut goes round the end, the others go straight
  by_cases hlow : i < n
  · have hsum : 16 - n + i < 16 := by omega
    simp [hlow, hsum]
  · have hwrap : i - n < 16 - n := by omega
    have hback : n + (i - n) = i := by omega
    simp [hlow, hi, hwrap, hback]

/-- **A step backward undoes the step forward.** The words that chose a sum are still there when it is taken
away. -/
theorem Step.backward_forward (keys : Array Word) (step : Step) (s : State) :
    step.backward keys (step.forward keys s) = s := by
  cases step with
  | mix k0 k1 k2 k3 =>
    simp only [Step.forward, Step.backward, rotateRight_rotateLeft _ (show 5 < 16 by decide),
      rotateRight_rotateLeft _ (show 3 < 16 by decide),
      rotateRight_rotateLeft _ (show 2 < 16 by decide),
      rotateRight_rotateLeft _ (show 1 < 16 by decide), BitVec.add_sub_cancel]
  | mash => simp only [Step.forward, Step.backward, BitVec.add_sub_cancel]

/-- **A step backward is undone by the step forward.** -/
theorem Step.forward_backward (keys : Array Word) (step : Step) (s : State) :
    step.forward keys (step.backward keys s) = s := by
  cases step with
  | mix k0 k1 k2 k3 =>
    simp only [Step.forward, Step.backward, BitVec.sub_add_cancel,
      rotateLeft_rotateRight _ (show 5 < 16 by decide),
      rotateLeft_rotateRight _ (show 3 < 16 by decide),
      rotateLeft_rotateRight _ (show 2 < 16 by decide),
      rotateLeft_rotateRight _ (show 1 < 16 by decide)]
  | mash => simp only [Step.forward, Step.backward, BitVec.sub_add_cancel]

/-- A list of steps is undone by the inverse steps in reverse order. -/
theorem foldl_backward_forward (keys : Array Word) (steps : List Step) (s : State) :
    steps.reverse.foldl (fun s step => step.backward keys s)
      (steps.foldl (fun s step => step.forward keys s) s) = s := by
  induction steps generalizing s with
  | nil => rfl
  | cons step steps ih =>
    -- reversed, the first step comes last, and the induction undoes those before it
    rw [List.foldl_cons, List.reverse_cons, List.foldl_append, ih]
    exact step.backward_forward keys s

/-- Steps are undone in reverse order, whichever direction comes first. -/
theorem foldl_forward_backward (keys : Array Word) (steps : List Step) (s : State) :
    steps.foldl (fun s step => step.forward keys s)
      (steps.reverse.foldl (fun s step => step.backward keys s) s) = s := by
  induction steps generalizing s with
  | nil => rfl
  | cons step steps ih =>
    -- the step that was first in the list is undone last, right before it is made again
    rw [List.reverse_cons, List.foldl_append, List.foldl_cons]
    change steps.foldl _ (step.forward keys (step.backward keys _)) = s
    rw [step.forward_backward, ih]

/-! ### Blocks -/

/-- The bits of a word are those of its two octets. -/
theorem getLsbD_wordOf (low high : UInt8) (i : Nat) :
    (wordOf low high).getLsbD i
      = if i < 8 then low.toBitVec.getLsbD i else high.toBitVec.getLsbD (i - 8) := by
  rw [wordOf, BitVec.getLsbD_append]

/-- A word is made of its octets. -/
theorem wordOf_octets (w : Word) : wordOf (lowOctet w) (highOctet w) = w := by
  refine BitVec.eq_of_getLsbD_eq fun i hi => ?_
  rw [getLsbD_wordOf]
  -- the low octet has the first eight bits
  by_cases hlow : i < 8
  · simp [hlow, lowOctet]
  · have hback : 8 + (i - 8) = i := by omega
    have hhigh : i - 8 < 8 := by omega
    simp [hlow, highOctet, hhigh, hback]

/-- The octets of a word are those that it was made from. -/
theorem lowOctet_wordOf (low high : UInt8) : lowOctet (wordOf low high) = low := by
  refine UInt8.toBitVec_inj.mp (BitVec.eq_of_getLsbD_eq fun i hi => ?_)
  simp [lowOctet, getLsbD_wordOf, hi]

theorem highOctet_wordOf (low high : UInt8) : highOctet (wordOf low high) = high := by
  refine UInt8.toBitVec_inj.mp (BitVec.eq_of_getLsbD_eq fun i hi => ?_)
  simp [highOctet, getLsbD_wordOf, hi]

/-- A state is made of its block. -/
theorem stateOf_blockOf (s : State) : stateOf (blockOf s) = s := by
  simp [stateOf, blockOf, wordOf_octets]

/-- A block is made of its state. -/
theorem blockOf_stateOf (b : Block) : blockOf (stateOf b) = b := by
  refine Vector.ext fun i hi => ?_
  simp only [blockOf, stateOf, lowOctet_wordOf, highOctet_wordOf]
  interval_cases i <;> rfl

/-- **RC2 is lawful** under any key words. -/
theorem lawful_cipher (keys : Array Word) : (cipher keys).Lawful where
  decrypt_encrypt b := by
    simp only [cipher, stateOf_blockOf, foldl_backward_forward, blockOf_stateOf]
  encrypt_decrypt b := by
    simp only [cipher, stateOf_blockOf, foldl_forward_backward, blockOf_stateOf]

end Shroud.Rc2
