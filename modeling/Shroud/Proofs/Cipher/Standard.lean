import Shroud.Cipher.Mode

/-!
# Chaining by the numbers of blocks

Cipher block chaining as it is usually written down: the vector is the ciphertext block with number zero, and

    Cᵢ₊₁ = E (Pᵢ₊₁ + Cᵢ)        Pᵢ₊₁ = D Cᵢ₊₁ + Cᵢ

The description knows the whole data at once; there is neither a piece of data nor a block that is carried from
one to the next. `Cbc.Standard.octets` is one run of it over data of whole blocks. The library's runs, which go
along the data and pass the last ciphertext block on, give the same blocks (`Cbc.encrypt_eq_ciphertext`,
`Cbc.decrypt_eq_plaintext`).
-/

namespace Shroud.Cbc

namespace Standard

/-- The ciphertext block with a number. The vector is number zero; plaintext blocks are counted from one. -/
def cipherBlock (c : BlockCipher) (vector : Block) (plain : List Block) : Nat → Block
  | 0 => vector
  | i + 1 => c.encrypt (Block.xor (plain.getD i default) (cipherBlock c vector plain i))

/-- The ciphertext of plaintext blocks. -/
def ciphertext (c : BlockCipher) (vector : Block) (plain : List Block) : List Block :=
  (List.range plain.length).map fun i => cipherBlock c vector plain (i + 1)

/-- The plaintext of ciphertext blocks. -/
def plaintext (c : BlockCipher) (vector : Block) (cipher : List Block) : List Block :=
  (List.range cipher.length).map fun i =>
    Block.xor (c.decrypt (cipher.getD i default)) ((vector :: cipher).getD i default)

/-- **One run over data** of whole blocks, in a direction. -/
def octets (c : BlockCipher) (direction : Direction) (vector : Block) (data : Bytes) : Bytes :=
  match direction with
  | .encrypt => Block.octetsOf (ciphertext c vector (Block.blocksOf data))
  | .decrypt => Block.octetsOf (plaintext c vector (Block.blocksOf data))

/-- Behind the first block, counting starts anew with the first ciphertext block as the vector. -/
theorem cipherBlock_cons (c : BlockCipher) (vector b : Block) (bs : List Block) (i : Nat) :
    cipherBlock c vector (b :: bs) (i + 1)
      = cipherBlock c (c.encrypt (Block.xor b vector)) bs i := by
  induction i with
  | zero => rfl
  | succ i ih =>
    rw [cipherBlock, ih, List.getD_cons_succ]
    rfl

end Standard

open Standard

variable (c : BlockCipher)

/-- **Encryption is the one of the standard**: each block is added to the one before. -/
theorem encrypt_eq_ciphertext (vector : Block) (plain : List Block) :
    encrypt c.encrypt vector plain = ciphertext c vector plain := by
  induction plain generalizing vector with
  | nil => rfl
  | cons b bs ih =>
    rw [encrypt, ih, ciphertext, ciphertext, List.length_cons, List.range_succ_eq_map, List.map_cons,
      List.map_map]
    refine congrArg _ (List.map_congr_left fun i _ => ?_)
    exact (cipherBlock_cons c vector b bs (i + 1)).symm

/-- **Decryption is the one of the standard.** -/
theorem decrypt_eq_plaintext (vector : Block) (cipher : List Block) :
    decrypt c.decrypt vector cipher = plaintext c vector cipher := by
  induction cipher generalizing vector with
  | nil => rfl
  | cons b bs ih =>
    rw [decrypt, ih, plaintext, plaintext, List.length_cons, List.range_succ_eq_map, List.map_cons,
      List.map_map]
    rfl

end Shroud.Cbc
