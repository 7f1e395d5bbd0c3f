/-!
# Byte strings

A byte string is a list of octets, so that every statement about salts, keys, paddings and encodings
is a statement about lists. This module adds what lists do not bring:

* `Bytes.toNat` and `Bytes.ofNat` — big-endian reading and writing at a fixed width;
* `Bytes.cycle` — the first octets of a string repeated without end;
* `Bytes.pieces` — the string cut into pieces of one size;
* `Bytes.wiped` — the all-zero string of the same length, what a buffer holds after a wipe.
-/

namespace Shroud

/-- A string of octets. -/
abbrev Bytes := List UInt8

namespace Bytes

/-- The number whose big-endian digits in base 256 are the given octets. -/
def toNat (bs : Bytes) : Nat :=
  bs.foldl (fun n b => n * 256 + b.toNat) 0

/-- The last `width` big-endian octets of `n`: higher digits are dropped, missing ones are zero. -/
def ofNat : (width : Nat) → Nat → Bytes
  | 0, _ => []
  | width + 1, n => ofNat width (n / 256) ++ [UInt8.ofNat (n % 256)]

/-- The least number of octets that hold `n`; zero needs none. -/
def widthOf (n : Nat) : Nat :=
  if n = 0 then 0 else Nat.log2 n / 8 + 1

/-- The first `n` octets of `bs` repeated without end; of the empty string, nothing. -/
def cycle (n : Nat) (bs : Bytes) : Bytes :=
  ((List.replicate (n / bs.length + 1) bs).flatten).take n

/-- `bs` cut into pieces of `size` octets, the last one possibly shorter. -/
def pieces (size : Nat) (bs : Bytes) : List Bytes :=
  if _h : size = 0 ∨ bs = [] then []
  else bs.take size :: pieces size (bs.drop size)
termination_by bs.length
decreasing_by
  have : bs.length ≠ 0 := by
    intro h0
    exact _h (Or.inr (List.eq_nil_of_length_eq_zero h0))
  simp only [List.length_drop]
  omega

/-- **The wiped buffer.** Its length is kept and every octet is zero. -/
def wiped (bs : Bytes) : Bytes :=
  List.replicate bs.length 0

@[simp] theorem length_wiped (bs : Bytes) : (wiped bs).length = bs.length := by
  simp [wiped]

@[simp] theorem length_ofNat (width n : Nat) : (ofNat width n).length = width := by
  induction width generalizing n with
  | zero => rfl
  | succ width ih => simp [ofNat, ih]

end Bytes

end Shroud
