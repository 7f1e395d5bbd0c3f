import Mathlib.Algebra.Order.Floor.Div
import Mathlib.Data.List.GetD
import Mathlib.Tactic.Ring
import Shroud.Bytes

/-!
# Laws of byte strings

What the operations on byte strings give, in terms that do not mention how they go about it:

* reading and writing numbers are inverse to each other at every width (`Bytes.toNat_ofNat`,
  `Bytes.ofNat_toNat`), and a number written in at least its own width is read back as it was;
* an octet of the repeated string is found by taking its position modulo the length of the string
  (`Bytes.getElem?_cycle`), and the repeated string has exactly the length that was asked for;
* a string of whole pieces is cut into the pieces that start at the multiples of the size
  (`Bytes.pieces_eq_map_block`), and blocks that are put in a row are found there again
  (`Bytes.block_flatMap_append`).
-/

namespace Shroud.Bytes

/-! ### Numbers -/

/-- Reading digits after the number `n` shifts `n` to the left of them. -/
theorem foldl_digits (bs : Bytes) (n : Nat) :
    bs.foldl (fun m b => m * 256 + b.toNat) n = n * 256 ^ bs.length + toNat bs := by
  unfold toNat
  induction bs generalizing n with
  | nil => simp
  | cons b bs ih =>
    rw [List.foldl_cons, ih, List.foldl_cons, ih (0 * 256 + b.toNat), List.length_cons, pow_succ]
    ring

@[simp] theorem toNat_nil : toNat [] = 0 := rfl

/-- Digits in front count for as many octets as stand behind. -/
theorem toNat_append (as bs : Bytes) : toNat (as ++ bs) = toNat as * 256 ^ bs.length + toNat bs := by
  unfold toNat
  rw [List.foldl_append, foldl_digits]
  rfl

/-- One more octet is one more digit. -/
theorem toNat_concat (bs : Bytes) (b : UInt8) : toNat (bs ++ [b]) = toNat bs * 256 + b.toNat := by
  simp [toNat]

/-- A string stays below the bound of its length. -/
theorem toNat_lt (bs : Bytes) : toNat bs < 256 ^ bs.length := by
  induction bs using List.reverseRecOn with
  | nil => simp
  | append_singleton bs b ih =>
    -- the last octet is the lowest digit
    have hb := b.toNat_lt
    rw [toNat_concat, List.length_append, List.length_singleton, pow_succ]
    omega

/-- **Writing and reading.** Of a number written in `width` octets, what is read back is its
remainder modulo the numbers of that width. -/
@[simp] theorem toNat_ofNat (width n : Nat) : toNat (ofNat width n) = n % 256 ^ width := by
  induction width generalizing n with
  | zero => simp [ofNat, Nat.mod_one]
  | succ width ih =>
    -- the lowest digit is written last; the induction reads the quotient before it
    have hdigit : (UInt8.ofNat (n % 256)).toNat = n % 256 := by simp
    rw [ofNat, toNat_concat, ih, hdigit, pow_succ', Nat.mod_mul]
    omega

/-- **A number that fits is read from its digits.** -/
theorem toNat_ofNat_of_lt {width n : Nat} (h : n < 256 ^ width) : toNat (ofNat width n) = n := by
  rw [toNat_ofNat, Nat.mod_eq_of_lt h]

/-- **Reading and writing.** Octets are the digits of the number that they stand for. -/
theorem ofNat_toNat (bs : Bytes) : ofNat bs.length (toNat bs) = bs := by
  induction bs using List.reverseRecOn with
  | nil => rfl
  | append_singleton bs b ih =>
    have hb := b.toNat_lt
    have hquot : (toNat bs * 256 + b.toNat) / 256 = toNat bs := by omega
    have hrem : (toNat bs * 256 + b.toNat) % 256 = b.toNat := by omega
    rw [toNat_concat, List.length_append, List.length_singleton, ofNat, hquot, hrem, ih]
    simp

/-! ### Repetition -/

/-- Copies repeat with the length of the string. -/
theorem getElem?_flatten_replicate (bs : Bytes) (k i : Nat) (h : i < k * bs.length) :
    ((List.replicate k bs).flatten)[i]? = bs[i % bs.length]? := by
  induction k generalizing i with
  | zero => omega
  | succ k ih =>
    rw [List.replicate_succ, List.flatten_cons]
    -- either the first copy holds the position, or the other copies do, one length further back
    by_cases hi : i < bs.length
    · rw [List.getElem?_append_left hi, Nat.mod_eq_of_lt hi]
    · have hrest : i - bs.length < k * bs.length := by
        rw [Nat.add_mul, Nat.one_mul] at h
        omega
      rw [List.getElem?_append_right (by omega), ih _ hrest, ← Nat.mod_eq_sub_mod (by omega)]

theorem lt_copies {bs : Bytes} (hbs : bs ≠ []) (n : Nat) :
    n < (n / bs.length + 1) * bs.length := by
  have hpos : 0 < bs.length := List.length_pos_iff.mpr hbs
  have hdiv := Nat.div_add_mod n bs.length
  have hmod := Nat.mod_lt n hpos
  rw [Nat.add_mul, Nat.one_mul, Nat.mul_comm]
  omega

@[simp] theorem cycle_nil (n : Nat) : cycle n [] = [] := by
  simp [cycle]

/-- The repetition is as long as it should be, if there is anything to repeat. -/
theorem length_cycle {bs : Bytes} (hbs : bs ≠ []) (n : Nat) : (cycle n bs).length = n := by
  -- the copies that are strung together are longer than what is kept of them
  have h := lt_copies hbs n
  simp only [cycle, List.length_take, List.length_flatten, List.map_replicate,
    List.sum_replicate_nat]
  omega

/-- **An octet of the repeated string** is the one at the position modulo the length. -/
theorem getElem?_cycle {n i : Nat} (h : i < n) (bs : Bytes) :
    (cycle n bs)[i]? = bs[i % bs.length]? := by
  by_cases hbs : bs = []
  · simp [hbs]
  · have hcopies := lt_copies hbs n
    rw [cycle, List.getElem?_take_of_lt h, getElem?_flatten_replicate _ _ _ (by omega)]

/-- The string itself stands in front, if there is room for it. -/
theorem exists_cycle_eq_append {n : Nat} {bs : Bytes} (h : bs.length ≤ n) :
    ∃ rest, cycle n bs = bs ++ rest := by
  rw [cycle, List.replicate_succ, List.flatten_cons, List.take_append, List.take_of_length_le h]
  exact ⟨_, rfl⟩

/-- Repeating a string that is written twice is repeating the string. -/
theorem cycle_append_self (n : Nat) (bs : Bytes) : cycle n (bs ++ bs) = cycle n bs := by
  by_cases hbs : bs = []
  · simp [hbs]
  · refine List.ext_getElem? fun i => ?_
    by_cases hi : i < n
    · -- a position in either copy is the same position in the string
      have hpos : 0 < bs.length := List.length_pos_iff.mpr hbs
      have hmod := Nat.mod_lt i (by omega : 0 < 2 * bs.length)
      have htwo := getElem?_flatten_replicate bs 2 _ hmod
      have hcopies : (List.replicate 2 bs).flatten = bs ++ bs := by
        simp [List.replicate_succ]
      rw [hcopies, Nat.mod_mul_left_mod] at htwo
      rw [getElem?_cycle hi, getElem?_cycle hi, List.length_append, ← Nat.two_mul, htwo]
    · have hlen := length_cycle hbs n
      have hlen' := length_cycle (List.append_ne_nil_of_left_ne_nil hbs bs) n
      rw [List.getElem?_eq_none (by omega), List.getElem?_eq_none (by omega)]

/-! ### Pieces -/

/-- The piece of `size` octets at a position that counts pieces. -/
def block (size : Nat) (bs : Bytes) (j : Nat) : Bytes :=
  (bs.drop (size * j)).take size

@[simp] theorem pieces_nil (size : Nat) : pieces size [] = [] := by
  rw [pieces, dif_pos (Or.inr rfl)]

/-- The first piece is cut off, and the rest is cut on. -/
theorem pieces_of_ne_nil {size : Nat} {bs : Bytes} (hsize : 0 < size) (hbs : bs ≠ []) :
    pieces size bs = bs.take size :: pieces size (bs.drop size) := by
  rw [pieces, dif_neg (by simp [hbs]; omega)]

/-- **A string of whole pieces** is cut at the multiples of the size. -/
theorem pieces_eq_map_block {size : Nat} (hsize : 0 < size) {count : Nat} {bs : Bytes}
    (hlen : bs.length = size * count) : pieces size bs = (List.range count).map (block size bs) := by
  induction count generalizing bs with
  | zero =>
    have hnil : bs = [] := List.eq_nil_of_length_eq_zero (by simpa using hlen)
    simp [hnil]
  | succ count ih =>
    have hbs : bs ≠ [] := by
      rintro rfl
      simp only [List.length_nil, Nat.mul_add, Nat.mul_one] at hlen
      omega
    have hrest : (bs.drop size).length = size * count := by
      rw [List.length_drop, hlen, Nat.mul_add, Nat.mul_one]
      omega
    -- the later pieces are those of the rest, one position further on
    have hshift : ∀ j, block size (bs.drop size) j = block size bs (j + 1) := by
      intro j
      rw [block, block, List.drop_drop, Nat.mul_add, Nat.mul_one, Nat.add_comm]
    have hfirst : block size bs 0 = bs.take size := by simp [block]
    rw [pieces_of_ne_nil hsize hbs, ih hrest, List.range_succ_eq_map, List.map_cons, List.map_map,
      hfirst]
    exact congrArg _ (List.map_congr_left fun j _ => hshift j)

/-! ### Blocks in a row -/

variable {size : Nat} {f : Nat → Bytes}

/-- Blocks of one size, one behind the other, have their sizes together. -/
theorem length_flatMap_range (hf : ∀ j, (f j).length = size) (n : Nat) :
    ((List.range n).flatMap f).length = size * n := by
  simp [List.length_flatMap, hf, Nat.mul_comm]

/-- Of blocks in a row each is found at its place. -/
theorem block_flatMap_append (hf : ∀ j, (f j).length = size) {n j : Nat} (hj : j < n) (rest : Bytes) :
    block size ((List.range n).flatMap f ++ rest) j = f j := by
  induction n generalizing rest with
  | zero => exact absurd hj (Nat.not_lt_zero j)
  | succ n ih =>
    rw [List.range_succ, List.flatMap_append, List.append_assoc]
    by_cases hlast : j = n
    · subst hlast
      rw [block, List.drop_left' (length_flatMap_range hf j), List.flatMap_singleton, List.take_left' (hf j)]
    · -- for an earlier block the last one belongs to the rest
      exact ih (by omega) _

/-- Where the first `n` blocks of a string are exchanged for others, the later blocks are still its own. -/
theorem block_append_drop {front : Bytes} {n j : Nat} (hfront : front.length = size * n) (hj : n ≤ j) (bs : Bytes) :
    block size (front ++ bs.drop (size * n)) j = block size bs j := by
  have hle : size * n ≤ size * j := Nat.mul_le_mul_left size hj
  have hplace : size * n + (size * j - size * n) = size * j := Nat.add_sub_cancel' hle
  rw [block, block, List.drop_append, List.drop_of_length_le (by omega), List.nil_append, hfront, List.drop_drop,
    hplace]

end Shroud.Bytes
