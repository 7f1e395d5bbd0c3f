import Shroud.Cipher.Block

/-!
# Cipher block chaining

Every block is added to the ciphertext block before it, the first one to the initialization vector.
`Cbc.encrypt` and `Cbc.decrypt` run over a list of blocks for any block function. The block with which
a run can be continued is the last ciphertext block seen (`Cbc.chainAfter`): running over a first part
and then, from there, over a second is one run over both (`Cbc.encrypt_append`, `Cbc.decrypt_append`).
-/

namespace Shroud.Cbc

/-- The ciphertext of blocks, after the block `chain`. -/
def encrypt (E : Block → Block) : (chain : Block) → List Block → List Block
  | _, [] => []
  | chain, b :: bs =>
    let c := E (Block.xor b chain)
    c :: encrypt E c bs

/-- The plaintext of ciphertext blocks, after the block `chain`. -/
def decrypt (D : Block → Block) : (chain : Block) → List Block → List Block
  | _, [] => []
  | chain, c :: cs => Block.xor (D c) chain :: decrypt D c cs

/-- The block that a run continues from after these ciphertext blocks. -/
def chainAfter : (chain : Block) → (ciphertext : List Block) → Block
  | chain, [] => chain
  | _, c :: cs => chainAfter c cs

theorem encrypt_append (E : Block → Block) (chain : Block) (xs ys : List Block) :
    encrypt E chain (xs ++ ys)
      = encrypt E chain xs ++ encrypt E (chainAfter chain (encrypt E chain xs)) ys := by
  induction xs generalizing chain with
  | nil => rfl
  | cons x xs ih => simp [encrypt, ih, chainAfter]

theorem decrypt_append (D : Block → Block) (chain : Block) (xs ys : List Block) :
    decrypt D chain (xs ++ ys) = decrypt D chain xs ++ decrypt D (chainAfter chain xs) ys := by
  induction xs generalizing chain with
  | nil => rfl
  | cons x xs ih => simp [decrypt, ih, chainAfter]

end Shroud.Cbc
