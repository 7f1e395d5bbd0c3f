import Shroud.Proofs.Derivation

/-!
# Whole blocks

The input of a derivation is made of whole blocks, and it stays so from round to round.

Stretching fills the last block. A string is stretched to the least multiple of the block size that holds it
(`isLeast_multiple`), and the octets are found by going round and round the string. They are cut off a row of copies,
of which there are always enough (`stretch_prefix_copies`). `stretch_least_multiple` puts this together.

Between two rounds a number is added to every block. `advance` makes the next input out of the pieces of the old one.
`InPlace.update` does it within one buffer, as a loop over the places where blocks start, where three things could go
wrong. A sum with more digits than a block has cannot be written. One that is written over more octets than it has, or
over fewer, moves every block behind it. And each turn reads a buffer that earlier turns have written to.

* `InPlace.between` is the buffer between two turns: as many blocks from the front as there were turns are sums, and
  behind them the input goes on as it was.
* `InPlace.addAt_between` is one turn, `InPlace.foldlM_addAt` any number of them, by induction on the number.
* `update_block_by_block` says of all turns together that they make the next input, and of each one that it changes
  its own block only.
-/

namespace Shroud

/-! ### Writing into a buffer -/

namespace Bytes

/-- `n` in `width` octets, unless it has more digits than that. -/
def ofNat? (width n : Nat) : Option Bytes :=
  if n < 256 ^ width then some (ofNat width n) else none

/-- The buffer with `octets` in the place of those from `start` up to `stop`. If there are not as many of them, all
that comes behind is moved. -/
def splice (buffer : Bytes) (start stop : Nat) (octets : Bytes) : Bytes :=
  buffer.take start ++ octets ++ buffer.drop stop

end Bytes

namespace Derivation

open Standard

/-! ### Stretching -/

/-- The blocks that are begun make up the least multiple. -/
theorem isLeast_multiple {v : Nat} (hv : 0 < v) (m : Nat) : IsLeast {n | v ∣ n ∧ m ≤ n} (v * (m ⌈/⌉ v)) := by
  constructor
  · exact ⟨Nat.dvd_mul_right v _, le_smul_ceilDiv hv⟩
  · rintro n ⟨⟨k, rfl⟩, hm⟩
    -- a multiple that is large enough has no fewer blocks
    have hk : m ⌈/⌉ v ≤ k := (ceilDiv_le_iff_le_smul hv).mpr hm
    exact Nat.mul_le_mul_left v hk

/-- Stretching fills up the last block. -/
theorem length_stretch (v : Nat) (data : Bytes) : (stretch v data).length = v * (data.length ⌈/⌉ v) := by
  rw [stretch_eq_filled, length_filled]

/-- **The copies suffice.** What is cut off them is never cut short by their end. -/
theorem stretch_prefix_copies (v : Nat) (data : Bytes) :
    stretch v data <+: (List.replicate ((stretch v data).length / data.length + 1) data).flatten := by
  have hsize : (stretch v data).length = v * ((data.length + v - 1) / v) := by
    rw [length_stretch, Nat.ceilDiv_eq_add_pred_div]
  rw [hsize]
  exact List.take_prefix _ _

/-- **Stretching goes to the least multiple, round and round the string.** For every string and every positive block
size the string is stretched, to nothing only if it is empty. The length is the least multiple of the block size that
is no less than the string's own, the octet at each position is the string's at the position modulo its length, and
the copies that the octets are cut off have them all. -/
theorem stretch_least_multiple {v : Nat} (hv : 0 < v) (data : Bytes) :
    stretch? v data = .ok (stretch v data)
      ∧ (stretch v data = [] ↔ data = [])
      ∧ IsLeast {n | v ∣ n ∧ data.length ≤ n} (stretch v data).length
      ∧ (∀ i < (stretch v data).length, (stretch v data)[i]? = data[i % data.length]?)
      ∧ stretch v data <+: (List.replicate ((stretch v data).length / data.length + 1) data).flatten := by
  have hleast : IsLeast {n | v ∣ n ∧ data.length ≤ n} (stretch v data).length := by
    rw [length_stretch]
    exact isLeast_multiple hv data.length
  refine ⟨stretch?_natCast hv data, ⟨?_, ?_⟩, hleast, ?_, stretch_prefix_copies v data⟩
  · intro hnil
    -- the stretched string is no shorter than the string
    have hle : data.length ≤ (stretch v data).length := hleast.1.2
    rw [hnil] at hle
    exact List.eq_nil_of_length_eq_zero (Nat.le_zero.mp hle)
  · rintro rfl
    exact Bytes.cycle_nil _
  · intro i hi
    -- the length is the one that the string is repeated to
    rw [length_stretch, Nat.ceilDiv_eq_add_pred_div] at hi
    exact Bytes.getElem?_cycle hi data

/-- Five octets fill one block of nine, in which they come a second time but for the last one, and two blocks of
three. -/
theorem stretch_least_multiple_five_octets :
    0 < 9 ∧ 0 < 3
      ∧ stretch? 9 [1, 2, 3, 4, 5] = .ok [1, 2, 3, 4, 5, 1, 2, 3, 4]
      ∧ stretch? 3 [1, 2, 3, 4, 5] = .ok [1, 2, 3, 4, 5, 1]
      ∧ IsLeast {n | 9 ∣ n ∧ 5 ≤ n} 9 ∧ IsLeast {n | 3 ∣ n ∧ 5 ≤ n} 6 := by
  obtain ⟨hnine, -, hleast, -⟩ := stretch_least_multiple (by decide : 0 < 9) [1, 2, 3, 4, 5]
  obtain ⟨hthree, -, hleast', -⟩ := stretch_least_multiple (by decide : 0 < 3) [1, 2, 3, 4, 5]
  exact ⟨by decide, by decide, hnine, hthree, hleast, hleast'⟩

/-! ### The update in place -/

namespace InPlace

/-- The places where blocks of `size` octets start in a buffer of `length` octets. -/
def starts (size length : Nat) : List Nat :=
  List.range' 0 (length ⌈/⌉ size) size

/-- What the output of a round adds to every block, but for one: its copies, cut down to a block, as a number. -/
def addend (H : Digest) (output : Bytes) : Nat :=
  Bytes.toNat ((List.replicate (H.blockSize / H.outputSize + 1) output).flatten.take H.blockSize)

/-- **One turn.** The block that starts at `start` is read as a number, and the sum, without the bits that a block has
no room for, is written in its place. -/
def addAt (size addend : Nat) (buffer : Bytes) (start : Nat) : Option Bytes := do
  let sum := Bytes.toNat ((buffer.take (start + size)).drop start) + addend + 1
  let octets ← Bytes.ofNat? size (sum &&& ((1 <<< (8 * size)) - 1))
  return buffer.splice start (start + size) octets

/-- **The update in place**: one turn at each start, in order. -/
def update (H : Digest) (output input : Bytes) : Option Bytes :=
  (starts H.blockSize input.length).foldlM (addAt H.blockSize (addend H output)) input

/-- The sum that takes the place of block `j`. -/
def sumAt (v B : Nat) (input : Bytes) (j : Nat) : Bytes :=
  Bytes.ofNat v (((Bytes.block v input j).toNat + B + 1) % 2 ^ (8 * v))

/-- **The buffer between two turns**: sums in the first `n` blocks, and the input from there on. -/
def between (v B : Nat) (input : Bytes) (n : Nat) : Bytes :=
  (List.range n).flatMap (sumAt v B input) ++ input.drop (v * n)

variable {v B n : Nat} {input output : Bytes}

@[simp] theorem length_sumAt (v B : Nat) (input : Bytes) (j : Nat) : (sumAt v B input j).length = v :=
  Bytes.length_ofNat v _

/-- What the bits of a block can say has no more digits than a block. -/
theorem mod_two_pow_lt (v m : Nat) : m % 2 ^ (8 * v) < 256 ^ v := by
  have hbits : 2 ^ (8 * v) = 256 ^ v := Nat.pow_mul 2 8 v
  rw [← hbits]
  exact Nat.mod_lt m (Nat.two_pow_pos (8 * v))

/-- A sum is taken modulo the size of a block. -/
theorem toNat_sumAt (v B : Nat) (input : Bytes) (j : Nat) :
    (sumAt v B input j).toNat = ((Bytes.block v input j).toNat + B + 1) % 2 ^ (8 * v) :=
  Bytes.toNat_ofNat_of_lt (mod_two_pow_lt v _)

/-- Sums are as long as the blocks that they take the place of, so that the later blocks stay where they were. -/
theorem length_flatMap_sumAt (v B : Nat) (input : Bytes) (n : Nat) :
    ((List.range n).flatMap (sumAt v B input)).length = v * n :=
  Bytes.length_flatMap_range (length_sumAt v B input) n

/-- Blocks that were advanced are sums. -/
theorem block_between_of_lt {j : Nat} (hj : j < n) : Bytes.block v (between v B input n) j = sumAt v B input j :=
  Bytes.block_flatMap_append (length_sumAt v B input) hj _

/-- Blocks that were not reached are as they were. -/
theorem block_between_of_le {j : Nat} (hj : n ≤ j) : Bytes.block v (between v B input n) j = Bytes.block v input j :=
  Bytes.block_append_drop (length_flatMap_sumAt v B input n) hj input

/-- The input keeps its length on the way. -/
theorem length_between (hn : v * n ≤ input.length) : (between v B input n).length = input.length := by
  rw [between, List.length_append, length_flatMap_sumAt, List.length_drop]
  omega

/-- **A turn goes through**, whatever is carried out of its block, and leaves the buffer as the next one expects it. -/
theorem addAt_between (v B : Nat) (input : Bytes) (n : Nat) :
    addAt v B (between v B input n) (v * n) = some (between v B input (n + 1)) := by
  have hfront := length_flatMap_sumAt v B input n
  -- no earlier turn has touched the block that is read
  have hread : ((between v B input n).take (v * n + v)).drop (v * n) = Bytes.block v input n := by
    rw [← block_between_of_le (le_refl n), List.drop_take, Nat.add_sub_cancel_left]
    rfl
  -- the mask takes the remainder, and that is not refused
  have hwrite : Bytes.ofNat? v ((Bytes.toNat (Bytes.block v input n) + B + 1) &&& ((1 <<< (8 * v)) - 1))
      = some (sumAt v B input n) := by
    rw [Nat.one_shiftLeft, Nat.and_two_pow_sub_one_eq_mod, Bytes.ofNat?, if_pos (mod_two_pow_lt v _), sumAt]
  -- as many octets are written as the block had, so that nothing is moved
  have hbehind : (between v B input n).drop (v * n + v) = input.drop (v * (n + 1)) := by
    rw [between, ← List.drop_drop, List.drop_left' hfront, List.drop_drop, Nat.mul_succ]
  have hahead : (between v B input n).take (v * n) = (List.range n).flatMap (sumAt v B input) :=
    List.take_left' hfront
  calc addAt v B (between v B input n) (v * n)
      = (Bytes.ofNat? v ((Bytes.toNat (((between v B input n).take (v * n + v)).drop (v * n)) + B + 1)
          &&& ((1 <<< (8 * v)) - 1))).bind
          fun octets => some ((between v B input n).splice (v * n) (v * n + v) octets) := rfl
    _ = some ((between v B input n).splice (v * n) (v * n + v) (sumAt v B input n)) := by
      rw [hread, hwrite, Option.bind_some]
    _ = some (between v B input (n + 1)) := by
      rw [Bytes.splice, hahead, hbehind, between, List.range_succ, List.flatMap_append, List.flatMap_singleton]

/-- **Any number of turns**, by induction on the number: the buffer is the one between two turns. -/
theorem foldlM_addAt (v B : Nat) (input : Bytes) (n : Nat) :
    (List.range' 0 n v).foldlM (addAt v B) input = some (between v B input n) := by
  induction n with
  | zero =>
    -- before the first turn everything is as it was
    show some input = some (input.drop (v * 0))
    rw [Nat.mul_zero, List.drop_zero]
  | succ n ih =>
    -- the last turn comes behind the others, and finds what they leave
    calc (List.range' 0 (n + 1) v).foldlM (addAt v B) input
        = (List.range' 0 n v ++ [v * n]).foldlM (addAt v B) input := by
          rw [List.range'_concat, Nat.zero_add]
      _ = (some (between v B input n)).bind fun buffer => [v * n].foldlM (addAt v B) buffer := by
          rw [List.foldlM_append, ih]
          rfl
      _ = (addAt v B (between v B input n) (v * n)).bind some := rfl
      _ = some (between v B input (n + 1)) := by
          rw [addAt_between, Option.bind_some]

/-! #### All turns -/

/-- Blocks start at the multiples of the block size. -/
theorem starts_eq (hv : 0 < v) (count : Nat) : starts v (v * count) = List.range' 0 count v := by
  have hcount : (v * count) ⌈/⌉ v = count := smul_ceilDiv hv count
  rw [starts, hcount]

/-- Every block is visited once: no start comes twice, and the starts are the places of the blocks. -/
theorem mem_starts (hv : 0 < v) {count start : Nat} :
    start ∈ starts v (v * count) ↔ ∃ j < count, start = v * j := by
  rw [starts_eq hv, List.mem_range']
  simp only [Nat.zero_add]

theorem nodup_starts (hv : 0 < v) (count : Nat) : (starts v (v * count)).Nodup := by
  rw [starts_eq hv]
  exact List.nodup_range' v hv

theorem take_starts (hv : 0 < v) {count : Nat} (hn : n ≤ count) :
    (starts v (v * count)).take n = List.range' 0 n v := by
  -- the later starts are behind the first ones, whatever their number
  obtain ⟨rest, rfl⟩ := Nat.exists_eq_add_of_le hn
  rw [starts_eq hv, ← List.range'_append, List.take_left' List.length_range']

/-- The number of copies is the one that fills a block, for an output of the digest's size. -/
theorem addend_eq {H : Digest} (houtput : output.length = H.outputSize) :
    addend H output = (copied H.blockSize output).toNat := by
  rw [← cycle_eq_copied (H.ne_nil_of_length_eq houtput), addend, Bytes.cycle, houtput]

/-- What `advance` makes is the buffer after the last turn. -/
theorem between_eq_advance {H : Digest} {count : Nat} (houtput : output.length = H.outputSize)
    (hinput : input.length = H.blockSize * count) :
    between H.blockSize (addend H output) input count = advance H.blockSize output input := by
  have hpos := H.blockSize_pos
  have hquot : input.length / H.blockSize = count := by rw [hinput, Nat.mul_div_cancel_left _ hpos]
  have hall : input.drop (H.blockSize * count) = [] := List.drop_of_length_le (by omega)
  rw [advance_eq_updated hpos (H.ne_nil_of_length_eq houtput) ⟨count, hinput⟩, ← addend_eq houtput, between, hall,
    List.append_nil, updated, hquot]
  rfl

end InPlace

open InPlace

/-- **The update in place moves the input on block by block.** For every digest, with blocks of 64 octets if it is one
of those that are known, every output of its size, and every buffer of whole blocks: each block is visited exactly
once; no write is refused, and what the buffer holds at the end is the next input, as long as this one; and each of its
blocks, as a number, is the old one plus the repeated output plus one, modulo the numbers of a block. No block gets
anything from another: after `n` turns the first `n` blocks are those of the next input already, and all others are
still those of this one. -/
theorem update_block_by_block (H : Digest) {output input : Bytes} (houtput : output.length = H.outputSize)
    (hinput : H.blockSize ∣ input.length) :
    (∀ digest, digestOf digest = .ok H → H.blockSize = 64)
      ∧ (starts H.blockSize input.length).Nodup
      ∧ (∀ start, start ∈ starts H.blockSize input.length
        ↔ ∃ j < input.length / H.blockSize, start = H.blockSize * j)
      ∧ update H output input = some (advance H.blockSize output input)
      ∧ (advance H.blockSize output input).length = input.length
      ∧ (∀ j < input.length / H.blockSize,
        (Bytes.block H.blockSize (advance H.blockSize output input) j).toNat
          = ((Bytes.block H.blockSize input j).toNat + (copied H.blockSize output).toNat + 1)
            % 2 ^ (8 * H.blockSize))
      ∧ ∀ n ≤ input.length / H.blockSize, ∃ buffer,
        ((starts H.blockSize input.length).take n).foldlM (addAt H.blockSize (addend H output)) input = some buffer
          ∧ buffer.length = input.length
          ∧ (∀ j < n,
            Bytes.block H.blockSize buffer j = Bytes.block H.blockSize (advance H.blockSize output input) j)
          ∧ ∀ j, n ≤ j → Bytes.block H.blockSize buffer j = Bytes.block H.blockSize input j := by
  have hpos := H.blockSize_pos
  obtain ⟨count, hcount⟩ := hinput
  have hquot : input.length / H.blockSize = count := by rw [hcount, Nat.mul_div_cancel_left _ hpos]
  -- the next input is the buffer after as many turns as there are blocks, so all is said of buffers between turns
  have hlast := between_eq_advance houtput hcount
  rw [hquot, hcount, ← hlast]
  refine ⟨fun _ => blockSize_of_digestOf, nodup_starts hpos count, fun start => mem_starts hpos, ?_, ?_, ?_, ?_⟩
  · rw [update, hcount, starts_eq hpos]
    exact foldlM_addAt _ _ input count
  · rw [length_between (by omega), hcount]
  · intro j hj
    rw [block_between_of_lt hj, toNat_sumAt, addend_eq houtput]
  · intro n hn
    have hfits : H.blockSize * n ≤ input.length := by
      rw [hcount]
      exact Nat.mul_le_mul_left _ hn
    refine ⟨between H.blockSize (addend H output) input n, ?_, ?_, ?_, ?_⟩
    · rw [take_starts hpos hn]
      exact foldlM_addAt _ _ input n
    · rw [length_between hfits, hcount]
    · intro j hj
      rw [block_between_of_lt hj, block_between_of_lt (hj.trans_le hn)]
    · intro j hj
      exact block_between_of_le hj

/-- All bits of the first block are set, so that one more than nothing carries out of it. The second block does not
get the carry: it becomes one, as it would behind any other block. -/
theorem update_block_by_block_carry :
    (List.replicate 20 0 : Bytes).length = Digest.sha1.outputSize
      ∧ Digest.sha1.blockSize ∣ (List.replicate 64 0xff ++ List.replicate 64 0 : Bytes).length
      ∧ ∃ moved,
        update .sha1 (List.replicate 20 0) (List.replicate 64 0xff ++ List.replicate 64 0) = some moved
          ∧ moved.length = 128
          ∧ (Bytes.block 64 moved 0).toNat = 0
          ∧ (Bytes.block 64 moved 1).toNat = 1 := by
  have houtput : (List.replicate 20 0 : Bytes).length = Digest.sha1.outputSize := rfl
  have hinput : Digest.sha1.blockSize ∣ (List.replicate 64 0xff ++ List.replicate 64 0 : Bytes).length := by
    decide +kernel
  obtain ⟨-, -, -, hupdate, hlength, hblocks, -⟩ := update_block_by_block .sha1 houtput hinput
  refine ⟨houtput, hinput, _, hupdate, hlength, (hblocks 0 ?_).trans ?_, (hblocks 1 ?_).trans ?_⟩ <;> decide +kernel

end Derivation

end Shroud
