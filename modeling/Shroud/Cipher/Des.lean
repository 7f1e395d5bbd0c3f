import Shroud.Cipher.Block
import Shroud.Cipher.Feistel

/-!
# Triple DES

DES is a Feistel network of sixteen rounds between an initial permutation and its inverse. Words of bits
are vectors of truth values, most significant first, and every rearrangement of bits is a table of
positions (`Des.select`), so that facts about permutations are facts about their tables. The round
function expands the half, adds the round key, substitutes six bits by four in eight boxes, and permutes.

The round keys of `Des.keySchedule` in reverse order decrypt. Triple DES encrypts with a first key,
decrypts with a second and encrypts with a third.
-/

namespace Shroud.Des

/-- A word of `n` bits, most significant first. -/
abbrev Bits (n : Nat) := Vector Bool n

/-- The bits of `x` at the positions that a table lists. -/
def select {m n : Nat} (table : Vector (Fin m) n) (x : Bits m) : Bits n :=
  table.map fun i => x[i]

/-- The sum of two words modulo two. -/
def add {n : Nat} (a b : Bits n) : Bits n :=
  Vector.zipWith Bool.xor a b

/-! ### Tables -/

/-- The permutation before the rounds. -/
def initialPermutation : Vector (Fin 64) 64 :=
  #v[57, 49, 41, 33, 25, 17, 9, 1, 59, 51, 43, 35, 27, 19, 11, 3,
    61, 53, 45, 37, 29, 21, 13, 5, 63, 55, 47, 39, 31, 23, 15, 7,
    56, 48, 40, 32, 24, 16, 8, 0, 58, 50, 42, 34, 26, 18, 10, 2,
    60, 52, 44, 36, 28, 20, 12, 4, 62, 54, 46, 38, 30, 22, 14, 6]

/-- The permutation after the rounds, the inverse of the one before them. -/
def finalPermutation : Vector (Fin 64) 64 :=
  #v[39, 7, 47, 15, 55, 23, 63, 31, 38, 6, 46, 14, 54, 22, 62, 30,
    37, 5, 45, 13, 53, 21, 61, 29, 36, 4, 44, 12, 52, 20, 60, 28,
    35, 3, 43, 11, 51, 19, 59, 27, 34, 2, 42, 10, 50, 18, 58, 26,
    33, 1, 41, 9, 49, 17, 57, 25, 32, 0, 40, 8, 48, 16, 56, 24]

/-- The expansion of a half to the width of a round key. -/
def expansion : Vector (Fin 32) 48 :=
  #v[31, 0, 1, 2, 3, 4, 3, 4, 5, 6, 7, 8, 7, 8, 9, 10,
    11, 12, 11, 12, 13, 14, 15, 16, 15, 16, 17, 18, 19, 20, 19, 20,
    21, 22, 23, 24, 23, 24, 25, 26, 27, 28, 27, 28, 29, 30, 31, 0]

/-- The permutation after the substitution. -/
def roundPermutation : Vector (Fin 32) 32 :=
  #v[15, 6, 19, 20, 28, 11, 27, 16, 0, 14, 22, 25, 4, 17, 30, 9,
    1, 7, 23, 13, 31, 26, 2, 8, 18, 12, 29, 5, 21, 10, 3, 24]

/-- The key bits that are used, without the eight parity bits. -/
def keyChoice : Vector (Fin 64) 56 :=
  #v[56, 48, 40, 32, 24, 16, 8, 0, 57, 49, 41, 33, 25, 17,
    9, 1, 58, 50, 42, 34, 26, 18, 10, 2, 59, 51, 43, 35,
    62, 54, 46, 38, 30, 22, 14, 6, 61, 53, 45, 37, 29, 21,
    13, 5, 60, 52, 44, 36, 28, 20, 12, 4, 27, 19, 11, 3]

/-- The bits of the two rotated key halves that make a round key. -/
def roundKeyChoice : Vector (Fin 56) 48 :=
  #v[13, 16, 10, 23, 0, 4, 2, 27, 14, 5, 20, 9, 22, 18, 11, 3,
    25, 7, 15, 6, 26, 19, 12, 1, 40, 51, 30, 36, 46, 54, 29, 39,
    50, 44, 32, 47, 43, 48, 38, 55, 33, 52, 45, 41, 49, 35, 28, 31]

/-- The places by which the key halves are rotated before each round key. -/
def rotations : List Nat :=
  [1, 1, 2, 2, 2, 2, 2, 2, 1, 2, 2, 2, 2, 2, 2, 1]

/-- The substitution boxes: four rows of sixteen values each. -/
def boxes : Vector (Vector Nat 64) 8 :=
  #v[#v[14, 4, 13, 1, 2, 15, 11, 8, 3, 10, 6, 12, 5, 9, 0, 7,
      0, 15, 7, 4, 14, 2, 13, 1, 10, 6, 12, 11, 9, 5, 3, 8,
      4, 1, 14, 8, 13, 6, 2, 11, 15, 12, 9, 7, 3, 10, 5, 0,
      15, 12, 8, 2, 4, 9, 1, 7, 5, 11, 3, 14, 10, 0, 6, 13],
    #v[15, 1, 8, 14, 6, 11, 3, 4, 9, 7, 2, 13, 12, 0, 5, 10,
      3, 13, 4, 7, 15, 2, 8, 14, 12, 0, 1, 10, 6, 9, 11, 5,
      0, 14, 7, 11, 10, 4, 13, 1, 5, 8, 12, 6, 9, 3, 2, 15,
      13, 8, 10, 1, 3, 15, 4, 2, 11, 6, 7, 12, 0, 5, 14, 9],
    #v[10, 0, 9, 14, 6, 3, 15, 5, 1, 13, 12, 7, 11, 4, 2, 8,
      13, 7, 0, 9, 3, 4, 6, 10, 2, 8, 5, 14, 12, 11, 15, 1,
      13, 6, 4, 9, 8, 15, 3, 0, 11, 1, 2, 12, 5, 10, 14, 7,
      1, 10, 13, 0, 6, 9, 8, 7, 4, 15, 14, 3, 11, 5, 2, 12],
    #v[7, 13, 14, 3, 0, 6, 9, 10, 1, 2, 8, 5, 11, 12, 4, 15,
      13, 8, 11, 5, 6, 15, 0, 3, 4, 7, 2, 12, 1, 10, 14, 9,
      10, 6, 9, 0, 12, 11, 7, 13, 15, 1, 3, 14, 5, 2, 8, 4,
      3, 15, 0, 6, 10, 1, 13, 8, 9, 4, 5, 11, 12, 7, 2, 14],
    #v[2, 12, 4, 1, 7, 10, 11, 6, 8, 5, 3, 15, 13, 0, 14, 9,
      14, 11, 2, 12, 4, 7, 13, 1, 5, 0, 15, 10, 3, 9, 8, 6,
      4, 2, 1, 11, 10, 13, 7, 8, 15, 9, 12, 5, 6, 3, 0, 14,
      11, 8, 12, 7, 1, 14, 2, 13, 6, 15, 0, 9, 10, 4, 5, 3],
    #v[12, 1, 10, 15, 9, 2, 6, 8, 0, 13, 3, 4, 14, 7, 5, 11,
      10, 15, 4, 2, 7, 12, 9, 5, 6, 1, 13, 14, 0, 11, 3, 8,
      9, 14, 15, 5, 2, 8, 12, 3, 7, 0, 4, 10, 1, 13, 11, 6,
      4, 3, 2, 12, 9, 5, 15, 10, 11, 14, 1, 7, 6, 0, 8, 13],
    #v[4, 11, 2, 14, 15, 0, 8, 13, 3, 12, 9, 7, 5, 10, 6, 1,
      13, 0, 11, 7, 4, 9, 1, 10, 14, 3, 5, 12, 2, 15, 8, 6,
      1, 4, 11, 13, 12, 3, 7, 14, 10, 15, 6, 8, 0, 5, 9, 2,
      6, 11, 13, 8, 1, 4, 10, 7, 9, 5, 0, 15, 14, 2, 3, 12],
    #v[13, 2, 8, 4, 6, 15, 11, 1, 10, 9, 3, 14, 5, 0, 12, 7,
      1, 15, 13, 8, 10, 3, 7, 4, 12, 5, 6, 11, 0, 14, 9, 2,
      7, 11, 4, 1, 9, 12, 14, 2, 0, 6, 10, 13, 15, 3, 5, 8,
      2, 1, 14, 7, 4, 10, 8, 13, 15, 12, 9, 0, 3, 5, 6, 11]]

/-! ### Rounds -/

/-- The number that six bits select in a box: the outer two give the row, the inner four the column. -/
def boxIndex (b0 b1 b2 b3 b4 b5 : Bool) : Fin 64 :=
  let bit (b : Bool) (n : Nat) := if b then n else 0
  Fin.ofNat 64 (bit b0 32 + bit b5 16 + bit b1 8 + bit b2 4 + bit b3 2 + bit b4 1)

/-- Eight times six bits replaced by four. -/
def substitute (x : Bits 48) : Bits 32 :=
  let outputs : Vector Nat 8 := Vector.ofFn fun i : Fin 8 =>
    boxes[i][boxIndex x[6 * i.val] x[6 * i.val + 1] x[6 * i.val + 2] x[6 * i.val + 3]
      x[6 * i.val + 4] x[6 * i.val + 5]]
  Vector.ofFn fun j : Fin 32 => outputs[j.val / 4].testBit (3 - j.val % 4)

/-- The round function. -/
def roundFunction (key : Bits 48) (half : Bits 32) : Bits 32 :=
  select roundPermutation (substitute (add (select expansion half) key))

/-- A word rotated to the left. -/
def rotate {n : Nat} (places : Nat) (x : Bits n) : Bits n :=
  Vector.ofFn fun i : Fin n => x.get ⟨(i.val + places) % n, Nat.mod_lt _ i.pos⟩

/-- The round keys of a key, after the rotations that are left. -/
def roundKeys : List Nat → Bits 28 → Bits 28 → List (Bits 48)
  | [], _, _ => []
  | places :: rest, c, d =>
    let c := rotate places c
    let d := rotate places d
    select roundKeyChoice (c ++ d) :: roundKeys rest c d

/-- The first half of a word of even width. -/
def leftHalf {n : Nat} (x : Bits (n + n)) : Bits n :=
  Vector.ofFn fun i : Fin n => x[i.val]

/-- The second half of a word of even width. -/
def rightHalf {n : Nat} (x : Bits (n + n)) : Bits n :=
  Vector.ofFn fun i : Fin n => x[n + i.val]

/-- The sixteen round keys of a key. -/
def keySchedule (key : Bits 64) : List (Bits 48) :=
  let chosen : Bits (28 + 28) := select keyChoice key
  roundKeys rotations (leftHalf chosen) (rightHalf chosen)

/-- The network with given round keys, between the two permutations. -/
def crypt (keys : List (Bits 48)) (x : Bits 64) : Bits 64 :=
  let y : Bits (32 + 32) := select initialPermutation x
  let (left, right) := Feistel.run add roundFunction keys (leftHalf y, rightHalf y)
  select finalPermutation (right ++ left : Bits (32 + 32))

/-! ### Blocks -/

/-- The bits of a block. -/
def bitsOf (b : Block) : Bits 64 :=
  Vector.ofFn fun i : Fin 64 => (b[i.val / 8]).toBitVec.getMsbD (i.val % 8)

/-- The octet with the given eight bits. -/
def octetOf (b0 b1 b2 b3 b4 b5 b6 b7 : Bool) : UInt8 :=
  ⟨BitVec.ofBoolListBE [b0, b1, b2, b3, b4, b5, b6, b7]⟩

/-- The block with the given bits. -/
def blockOf (x : Bits 64) : Block :=
  Vector.ofFn fun i : Fin 8 =>
    octetOf x[8 * i.val] x[8 * i.val + 1] x[8 * i.val + 2] x[8 * i.val + 3] x[8 * i.val + 4]
      x[8 * i.val + 5] x[8 * i.val + 6] x[8 * i.val + 7]

/-- The round keys of the three parts of a triple key. -/
structure TripleKey where
  first : List (Bits 48)
  second : List (Bits 48)
  third : List (Bits 48)

/-- The triple key of three blocks. -/
def TripleKey.ofBlocks (k1 k2 k3 : Block) : TripleKey :=
  ⟨keySchedule (bitsOf k1), keySchedule (bitsOf k2), keySchedule (bitsOf k3)⟩

/-- One block encrypted: encryption, decryption and encryption with the three parts. -/
def TripleKey.encrypt (k : TripleKey) (b : Block) : Block :=
  blockOf (crypt k.third (crypt k.second.reverse (crypt k.first (bitsOf b))))

/-- One block decrypted: the inverse steps in reverse order. -/
def TripleKey.decrypt (k : TripleKey) (b : Block) : Block :=
  blockOf (crypt k.first.reverse (crypt k.second (crypt k.third.reverse (bitsOf b))))

/-- The block cipher of a triple key. -/
def TripleKey.cipher (k : TripleKey) : BlockCipher where
  encrypt := k.encrypt
  decrypt := k.decrypt

end Shroud.Des
