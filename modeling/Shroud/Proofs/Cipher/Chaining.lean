import Shroud.Proofs.Cipher.Keys

/-!
# Chaining is undone by chaining back

Under a lawful cipher, decryption in cipher block chaining undoes encryption from the same vector, and the
other way round (`Cbc.decrypt_encrypt`, `Cbc.encrypt_decrypt`), by induction on the blocks: the block that
the next one is chained to is the same ciphertext block on both sides. For modes it is one equivalence,
`Mode.encrypts_iff_decrypts`: an encrypting mode gives `y` for `x` exactly if the decrypting mode with the
same key and vector gives `x` for `y`. It needs no side condition, since both refuse the same lengths.

The modes that a cipher opens are lawful, because every cipher that can be made is (`Cipher.openMode_lawful`).
-/

namespace Shroud

/-! ### Runs over blocks -/

namespace Cbc

variable {E D : Block → Block}

/-- **Chained decryption undoes chained encryption.** -/
theorem decrypt_encrypt (h : ∀ b, D (E b) = b) (chain : Block) (bs : List Block) :
    decrypt D chain (encrypt E chain bs) = bs := by
  induction bs generalizing chain with
  | nil => rfl
  | cons b bs ih => simp only [encrypt, decrypt, h, Block.xor_xor_cancel, ih]

theorem encrypt_decrypt (h : ∀ b, E (D b) = b) (chain : Block) (cs : List Block) :
    encrypt E chain (decrypt D chain cs) = cs := by
  induction cs generalizing chain with
  | nil => rfl
  | cons c cs ih => simp only [encrypt, decrypt, h, Block.xor_xor_cancel, ih]

@[simp] theorem length_encrypt (E : Block → Block) (chain : Block) (bs : List Block) :
    (encrypt E chain bs).length = bs.length := by
  induction bs generalizing chain with
  | nil => rfl
  | cons b bs ih => simp [encrypt, ih]

@[simp] theorem length_decrypt (D : Block → Block) (chain : Block) (cs : List Block) :
    (decrypt D chain cs).length = cs.length := by
  induction cs generalizing chain with
  | nil => rfl
  | cons c cs ih => simp [decrypt, ih]

end Cbc

/-! ### Modes -/

/-- A length passes the check if it is that of some whole blocks. -/
theorem checkAligned_eq_ok_iff (length : Nat) :
    checkAligned length blockSize = .ok () ↔ 0 < length ∧ 8 ∣ length := by
  have hblock : ((blockSize : Nat) : Int) = 8 := rfl
  unfold checkAligned
  rw [hblock]
  -- nothing at all is refused first, and then what is no multiple of a block
  by_cases hempty : length = 0
  · simp [hempty]
  · rw [if_neg hempty, if_neg (by decide)]
    by_cases haligned : (length : Int) % 8 = 0
    · simp only [haligned, ne_eq, not_true_eq_false, if_false, true_iff]
      omega
    · simp only [ne_eq, haligned, not_false_eq_true, if_true, reduceCtorEq, false_iff]
      omega

namespace Mode

/-- **Whole blocks are accepted**, and nothing else: the check of the length is the only one. -/
theorem crypt_eq_ok_iff_cryptBlocks {m : Mode} {data : Bytes} {r : Bytes × Mode} :
    m.crypt data = .ok r ↔ (0 < data.length ∧ 8 ∣ data.length)
      ∧ r = (Block.octetsOf (m.cryptBlocks (Block.blocksOf data)).1,
        (m.cryptBlocks (Block.blocksOf data)).2) := by
  rw [← checkAligned_eq_ok_iff, crypt]
  cases checkAligned data.length blockSize with
  | error failure => simp
  | ok u => simp [eq_comm]

/-- What a mode gives for data, without the mode that goes on. -/
def result (m : Mode) (data : Bytes) : Except Failure Bytes :=
  (m.crypt data).map Prod.fst

/-- A mode works on whole blocks, and on nothing else. -/
theorem result_eq_ok_iff (m : Mode) (x y : Bytes) :
    m.result x = .ok y ↔
      (0 < x.length ∧ 8 ∣ x.length) ∧ Block.octetsOf (m.cryptBlocks (Block.blocksOf x)).1 = y := by
  unfold result
  constructor
  · intro h
    cases hcrypt : m.crypt x with
    | error failure => simp [hcrypt, Except.map] at h
    | ok r =>
      obtain ⟨hx, rfl⟩ := crypt_eq_ok_iff_cryptBlocks.mp hcrypt
      rw [hcrypt] at h
      exact ⟨hx, Except.ok.inj h⟩
  · rintro ⟨hx, rfl⟩
    -- the length is all that can be refused
    rw [crypt_eq_ok_iff_cryptBlocks.mpr ⟨hx, rfl⟩]
    rfl

/-- Each block is replaced by one. -/
@[simp] theorem length_cryptBlocks (m : Mode) (blocks : List Block) :
    (m.cryptBlocks blocks).1.length = blocks.length := by
  unfold cryptBlocks
  split <;> simp

section Directions

variable {c : BlockCipher} {label : String} (vector : Block)

/-- An encrypting mode chains forward from its block, and a decrypting mode back. -/
theorem cryptBlocks_of_encrypt (h : Direction.ofLabel label = .encrypt) (bs : List Block) :
    (cryptBlocks ⟨c, label, vector⟩ bs).1 = Cbc.encrypt c.encrypt vector bs := by
  simp only [cryptBlocks, direction, h]

/-- A mode for decryption undoes the chaining. -/
theorem cryptBlocks_of_decrypt (h : Direction.ofLabel label = .decrypt) (cs : List Block) :
    (cryptBlocks ⟨c, label, vector⟩ cs).1 = Cbc.decrypt c.decrypt vector cs := by
  simp only [cryptBlocks, direction, h]

end Directions

/-- What a mode returns is as long as what it was given. -/
theorem length_of_result_eq_ok {m : Mode} {x y : Bytes} (h : m.result x = .ok y) :
    y.length = x.length := by
  obtain ⟨⟨-, haligned⟩, rfl⟩ := (m.result_eq_ok_iff x y).mp h
  rw [Block.length_octetsOf, length_cryptBlocks, ← Block.length_octetsOf,
    Block.octetsOf_blocksOf haligned]

/-- Where one mode undoes another on blocks, it does so on data. -/
theorem result_of_undone {m m' : Mode}
    (h : ∀ bs, (m'.cryptBlocks (m.cryptBlocks bs).1).1 = bs) {x y : Bytes}
    (hxy : m.result x = .ok y) : m'.result y = .ok x := by
  -- the length is kept, so the second mode admits what the first one gave
  have hlen := length_of_result_eq_ok hxy
  obtain ⟨hadmitted, hy⟩ := (m.result_eq_ok_iff x y).mp hxy
  refine (m'.result_eq_ok_iff y x).mpr ⟨by rwa [hlen], ?_⟩
  rw [← hy, Block.blocksOf_octetsOf, h, Block.octetsOf_blocksOf hadmitted.2]

/-- The mode for the other direction, from the same vector. -/
def reversed (m : Mode) : Mode :=
  { m with label := "decrypt" }

/-- **Encrypting and decrypting are one relation**, read in the two directions. -/
theorem encrypts_iff_decrypts {m : Mode} (hlawful : m.cipher.Lawful) (hlabel : m.label = "encrypt")
    (x y : Bytes) : m.result x = .ok y ↔ m.reversed.result y = .ok x := by
  -- both modes start from the same block
  have hforth : ∀ bs, (m.cryptBlocks bs).1 = Cbc.encrypt m.cipher.encrypt m.chain bs :=
    cryptBlocks_of_encrypt m.chain (by rw [hlabel]; rfl)
  have hback : ∀ cs, (m.reversed.cryptBlocks cs).1 = Cbc.decrypt m.cipher.decrypt m.chain cs :=
    cryptBlocks_of_decrypt m.chain rfl
  constructor
  · refine result_of_undone fun bs => ?_
    rw [hback, hforth, Cbc.decrypt_encrypt hlawful.decrypt_encrypt]
  · refine result_of_undone fun cs => ?_
    rw [hforth, hback, Cbc.encrypt_decrypt hlawful.encrypt_decrypt]

end Mode

/-! ### Ciphers with a key -/

namespace Cipher

/-- The key of a cipher, if it has one, is lawful. -/
def Lawful (c : Cipher) : Prop :=
  ∀ keyed, c.keyed = some keyed → keyed.Lawful

/-- **Every cipher that can be made undoes itself.** -/
theorem make_lawful {family : CipherFamily} {key : Bytes} {bits : Int} {c : Cipher}
    (h : make family key bits = .ok c) : c.Lawful := by
  obtain ⟨made, hunder, hmade⟩ := exists_under h
  intro keyed hkeyed
  obtain rfl := Option.some.inj (hmade.symm.trans hkeyed)
  exact hunder.lawful

/-- **Opening a mode.** It starts with the cipher's key and the vector, which is one block. -/
theorem openMode_eq_ok_iff {c : Cipher} {iv : Bytes} {label : String} {m : Mode} :
    c.openMode iv label = .ok m ↔ c.keyed = some m.cipher ∧ m.chain.toList = iv ∧ m.label = label := by
  rw [← Block.ofBytes?_eq_some_iff]
  constructor
  · intro h
    unfold openMode at h
    split at h
    · exact absurd h (by simp)
    -- a closed cipher is refused before the vector is looked at
    · next keyed hkeyed =>
      split at h
      · exact absurd h (by simp)
      · next chain hchain =>
        obtain rfl := Except.ok.inj h
        exact ⟨hkeyed, hchain, rfl⟩
  · rintro ⟨hkeyed, hchain, rfl⟩
    simp only [openMode, hkeyed, hchain]

/-- A vector that is not one block is refused, in the way of the cipher's family. -/
theorem openMode_of_length_ne {c : Cipher} {keyed : BlockCipher} (hkeyed : c.keyed = some keyed) {iv : Bytes}
    (hiv : iv.length ≠ 8) (label : String) :
    c.openMode iv label = .error (.cipher (CipherFamily.ivFault c.family)) := by
  have hnone : Block.ofBytes? iv = none := by
    refine Option.eq_none_iff_forall_ne_some.mpr fun b hb => hiv ?_
    rw [← Block.ofBytes?_eq_some_iff.mp hb, Vector.length_toList]
  simp only [openMode, hkeyed, hnone]

theorem openMode_lawful {c : Cipher} (hc : c.Lawful) {iv : Bytes} {label : String} {m : Mode}
    (h : c.openMode iv label = .ok m) : m.cipher.Lawful :=
  hc _ (openMode_eq_ok_iff.mp h).1

/-- Asking for decryption opens the mode that asking for encryption does, reversed. -/
theorem openMode_decrypt (c : Cipher) (iv : Bytes) :
    c.openMode iv "decrypt" = (c.openMode iv "encrypt").map Mode.reversed := by
  unfold openMode
  cases c.keyed with
  | none => rfl
  | some keyed => cases Block.ofBytes? iv <;> rfl

end Cipher

end Shroud
