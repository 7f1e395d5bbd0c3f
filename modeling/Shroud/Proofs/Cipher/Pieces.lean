import Shroud.Proofs.Cipher.Chaining
import Shroud.Proofs.Cipher.Keys
import Shroud.Proofs.Cipher.Standard

/-!
# Data in pieces

A mode takes its data in pieces and remembers one block between them. `Mode.Passes` relates a mode, what went
through it so far, what came out, and the mode that it has become; it is closed under one more piece
(`Mode.Passes.crypt`), and says that all that came out is one run of chaining over all that went in
(`Mode.Passes.eq_octets`). How the data was cut does not appear in it.

So two modes under one key and vector, in opposite directions, undo each other however the data is cut for the
one and for the other (`Cipher.cryptAll_opposite`).
-/

namespace Shroud

namespace Cbc

/-- The chain goes on from piece to piece. -/
theorem chainAfter_append (chain : Block) (xs ys : List Block) :
    chainAfter chain (xs ++ ys) = chainAfter (chainAfter chain xs) ys := by
  induction xs generalizing chain with
  | nil => rfl
  | cons x xs ih => exact ih x

end Cbc

/-- A direction is read from its label. -/
@[simp] theorem Direction.ofLabel_label (direction : Direction) : ofLabel direction.label = direction := by
  cases direction <;> rfl

theorem Direction.ne_iff {a b : Direction} :
    a ≠ b ↔ (a = .encrypt ∧ b = .decrypt) ∨ (a = .decrypt ∧ b = .encrypt) := by
  cases a <;> cases b <;> simp

namespace Mode

/-- **Blocks in two parts**: the second part goes through the mode that the first one leaves. -/
theorem cryptBlocks_append (m : Mode) (xs ys : List Block) :
    m.cryptBlocks (xs ++ ys)
      = ((m.cryptBlocks xs).1 ++ ((m.cryptBlocks xs).2.cryptBlocks ys).1,
        ((m.cryptBlocks xs).2.cryptBlocks ys).2) := by
  obtain ⟨cipher, label, chain⟩ := m
  -- the carried block is the last one of the ciphertext, which is the result or the data
  cases hdirection : Direction.ofLabel label <;>
    simp only [cryptBlocks, direction, hdirection, Cbc.encrypt_append, Cbc.decrypt_append,
      Cbc.chainAfter_append]

/-! ### What went through a mode -/

/-- **What went through a mode.** In one run over its blocks, `x` comes out as `y` and leaves `next`. -/
def Passes (m : Mode) (x y : Bytes) (next : Mode) : Prop :=
  ∃ xs ys, x = Block.octetsOf xs ∧ y = Block.octetsOf ys ∧ m.cryptBlocks xs = (ys, next)

/-- **One piece**: a positive number of whole blocks is accepted, and nothing else. -/
theorem crypt_eq_ok_iff {m next : Mode} {data out : Bytes} :
    m.crypt data = .ok (out, next) ↔ (0 < data.length ∧ 8 ∣ data.length) ∧ m.Passes data out next := by
  rw [crypt_eq_ok_iff_cryptBlocks]
  refine and_congr_right fun ⟨_, haligned⟩ => ?_
  constructor
  · intro h
    obtain ⟨rfl, rfl⟩ := Prod.mk.inj h
    exact ⟨_, _, (Block.octetsOf_blocksOf haligned).symm, rfl, rfl⟩
  · rintro ⟨xs, ys, rfl, rfl, hcrypt⟩
    rw [Block.blocksOf_octetsOf, hcrypt]

/-- **A mode takes whole blocks and nothing else.** -/
theorem exists_crypt_iff {m : Mode} {data : Bytes} :
    (∃ out next, m.crypt data = .ok (out, next)) ↔ 0 < data.length ∧ 8 ∣ data.length := by
  constructor
  · rintro ⟨out, next, h⟩
    exact (crypt_eq_ok_iff.mp h).1
  · intro h
    exact ⟨_, _, crypt_eq_ok_iff_cryptBlocks.mpr ⟨h, rfl⟩⟩

namespace Passes

variable {m m' m'' : Mode} {x x' y y' : Bytes}

theorem nil (m : Mode) : m.Passes [] [] m := by
  refine ⟨[], [], rfl, rfl, ?_⟩
  unfold cryptBlocks
  split <;> rfl

/-- **Two pieces pass as one**, if the second starts in the mode that the first leaves. -/
theorem append (h : m.Passes x y m') (h' : m'.Passes x' y' m'') : m.Passes (x ++ x') (y ++ y') m'' := by
  obtain ⟨xs, ys, rfl, rfl, hxs⟩ := h
  obtain ⟨xs', ys', rfl, rfl, hxs'⟩ := h'
  refine ⟨xs ++ xs', ys ++ ys', List.flatMap_append.symm, List.flatMap_append.symm, ?_⟩
  rw [cryptBlocks_append, hxs, hxs']

/-- **One more piece.** -/
theorem crypt (h : m.Passes x y m') {data out : Bytes} (hdata : m'.crypt data = .ok (out, m'')) :
    m.Passes (x ++ data) (y ++ out) m'' :=
  h.append (crypt_eq_ok_iff.mp hdata).2

theorem length_eq (h : m.Passes x y m') : y.length = x.length := by
  obtain ⟨xs, ys, rfl, rfl, hxs⟩ := h
  have hlen := m.length_cryptBlocks xs
  rw [hxs] at hlen
  rw [Block.length_octetsOf, Block.length_octetsOf, hlen]

/-- **All that came out is one run of chaining** over all that went in. -/
theorem eq_octets {c : BlockCipher} {label : String} {vector : Block}
    (h : Passes ⟨c, label, vector⟩ x y m') :
    y = Cbc.Standard.octets c (Direction.ofLabel label) vector x := by
  obtain ⟨xs, ys, rfl, rfl, hxs⟩ := h
  have hys : (cryptBlocks ⟨c, label, vector⟩ xs).1 = ys := congrArg Prod.fst hxs
  -- what passed a mode is what the mode made of the blocks
  rw [← hys]
  cases hdirection : Direction.ofLabel label with
  | encrypt =>
    rw [cryptBlocks_of_encrypt vector hdirection, Cbc.encrypt_eq_ciphertext, Cbc.Standard.octets,
      Block.blocksOf_octetsOf]
  | decrypt =>
    rw [cryptBlocks_of_decrypt vector hdirection, Cbc.decrypt_eq_plaintext, Cbc.Standard.octets,
      Block.blocksOf_octetsOf]

/-- **Through a mode and through its opposite**, from the same vector. -/
theorem opposite {c : BlockCipher} (hc : c.Lawful) {vector : Block} {first second : String}
    (hopposite : Direction.ofLabel first ≠ Direction.ofLabel second) {z : Bytes}
    (h : Passes ⟨c, first, vector⟩ x y m) (h' : Passes ⟨c, second, vector⟩ y z m') : z = x := by
  obtain ⟨xs, ys, rfl, rfl, hxs⟩ := h
  obtain ⟨ys', zs, hys, rfl, hzs⟩ := h'
  have hsame : ys = ys' := by rw [← Block.blocksOf_octetsOf ys, hys, Block.blocksOf_octetsOf]
  subst hsame
  have hforth : (cryptBlocks ⟨c, first, vector⟩ xs).1 = ys := congrArg Prod.fst hxs
  have hback : (cryptBlocks ⟨c, second, vector⟩ ys).1 = zs := congrArg Prod.fst hzs
  -- one of the two directions encrypts, and each undoes the other
  obtain ⟨hfirst, hsecond⟩ | ⟨hfirst, hsecond⟩ := Direction.ne_iff.mp hopposite
  · rw [cryptBlocks_of_encrypt vector hfirst] at hforth
    rw [cryptBlocks_of_decrypt vector hsecond] at hback
    rw [← hback, ← hforth, Cbc.decrypt_encrypt hc.decrypt_encrypt]
  · rw [cryptBlocks_of_decrypt vector hfirst] at hforth
    rw [cryptBlocks_of_encrypt vector hsecond] at hback
    rw [← hback, ← hforth, Cbc.encrypt_decrypt hc.encrypt_decrypt]

end Passes

/-- **One piece through a new mode** is one run of chaining. -/
theorem crypt_of_admitted (c : BlockCipher) (direction : Direction) (vector : Block) {data : Bytes}
    (h : 0 < data.length ∧ 8 ∣ data.length) :
    (Cbc.Standard.octets c direction vector data).length = data.length
      ∧ ∃ next, crypt ⟨c, direction.label, vector⟩ data
        = .ok (Cbc.Standard.octets c direction vector data, next) := by
  obtain ⟨out, next, hcrypt⟩ := exists_crypt_iff.mpr h
  have hpasses := (crypt_eq_ok_iff.mp hcrypt).2
  obtain rfl := hpasses.eq_octets
  rw [Direction.ofLabel_label] at hpasses hcrypt
  exact ⟨hpasses.length_eq, next, hcrypt⟩

/-! ### All pieces of data -/

/-- Pieces of data, one after another: what came out for each, and the mode after the last. -/
def cryptAll (m : Mode) : List Bytes → Except Failure (List Bytes × Mode)
  | [] => .ok ([], m)
  | piece :: pieces => do
    let (out, next) ← m.crypt piece
    let (outs, last) ← next.cryptAll pieces
    return (out :: outs, last)

/-- **Pieces of whole blocks are accepted.** Each comes out at its own length, and all of them together are
what went through the mode. -/
theorem exists_cryptAll (m : Mode) {pieces : List Bytes}
    (h : ∀ piece ∈ pieces, 0 < piece.length ∧ 8 ∣ piece.length) :
    ∃ outs last, m.cryptAll pieces = .ok (outs, last)
      ∧ outs.map List.length = pieces.map List.length ∧ m.Passes pieces.flatten outs.flatten last := by
  induction pieces generalizing m with
  | nil => exact ⟨[], m, rfl, rfl, .nil m⟩
  | cons piece pieces ih =>
    obtain ⟨out, next, hout⟩ := exists_crypt_iff.mpr (h piece List.mem_cons_self)
    obtain ⟨outs, last, houts, hlengths, hpasses⟩ :=
      ih next fun p hp => h p (List.mem_cons_of_mem piece hp)
    have hfirst := (crypt_eq_ok_iff.mp hout).2
    refine ⟨out :: outs, last, ?_, ?_, hfirst.append hpasses⟩
    · -- the state that the first piece leaves is the one that the others start with
      rw [cryptAll, hout]
      simp only [houts, bind, Except.bind]
      rfl
    · rw [List.map_cons, List.map_cons, hlengths, hfirst.length_eq]

end Mode

namespace Cipher

/-- **Modes in opposite directions undo each other however the data is cut.** Under any key that is accepted
and any vector of one block, both modes are opened; data that is cut into pieces of whole blocks for the one
comes out piece by piece at the same lengths, and in whatever pieces of whole blocks all of this is sent
through the other, what comes out is the data. -/
theorem cryptAll_opposite {family : CipherFamily} {key : Bytes} {bits : Int} {c : Cipher}
    (hmade : make family key bits = .ok c) {iv : Bytes} (hiv : iv.length = 8) {first second : String}
    (hopposite : Direction.ofLabel first ≠ Direction.ofLabel second) {pieces : List Bytes}
    (hpieces : ∀ piece ∈ pieces, 0 < piece.length ∧ 8 ∣ piece.length) :
    ∃ m m' outs last, c.openMode iv first = .ok m ∧ c.openMode iv second = .ok m'
      ∧ m.cryptAll pieces = .ok (outs, last) ∧ outs.map List.length = pieces.map List.length
      ∧ ∀ pieces' : List Bytes, (∀ piece ∈ pieces', 0 < piece.length ∧ 8 ∣ piece.length) →
        pieces'.flatten = outs.flatten →
        ∃ outs' last', m'.cryptAll pieces' = .ok (outs', last') ∧ outs'.flatten = pieces.flatten := by
  obtain ⟨keyed, hunder, hkeyed⟩ := exists_under hmade
  obtain ⟨vector, hvector⟩ := Block.exists_toList_eq_iff.mpr hiv
  -- both modes are opened on one cipher, with one vector
  have hopen : ∀ label, c.openMode iv label = .ok ⟨keyed, label, vector⟩ := fun label =>
    openMode_eq_ok_iff.mpr ⟨hkeyed, hvector, rfl⟩
  obtain ⟨outs, last, houts, hlengths, hforth⟩ := Mode.exists_cryptAll ⟨keyed, first, vector⟩ hpieces
  refine ⟨_, _, outs, last, hopen first, hopen second, houts, hlengths, fun pieces' hpieces' hcut => ?_⟩
  obtain ⟨outs', last', houts', -, hback⟩ := Mode.exists_cryptAll ⟨keyed, second, vector⟩ hpieces'
  -- however it is cut, what comes back is one row of blocks
  rw [hcut] at hback
  exact ⟨outs', last', houts', hforth.opposite hunder.lawful hopposite hback⟩

/-- Three blocks, decrypted in one piece and then encrypted in pieces of one and of two blocks. -/
theorem cryptAll_opposite_three_blocks :
    ∃ c m m' out last, make .rc2 [1, 2, 3, 4, 5] 40 = .ok c
      ∧ c.openMode (List.replicate 8 0) "decrypt" = .ok m
      ∧ c.openMode (List.replicate 8 0) "encrypt" = .ok m'
      ∧ m.cryptAll [List.replicate 24 0xff] = .ok ([out], last)
      ∧ ∃ outs' last', m'.cryptAll [out.take 8, out.drop 8] = .ok (outs', last')
        ∧ outs'.flatten = List.replicate 24 0xff := by
  have hiv : (List.replicate 8 (0 : UInt8)).length = 8 := rfl
  have hpieces : ∀ piece ∈ [List.replicate 24 (0xff : UInt8)], 0 < piece.length ∧ 8 ∣ piece.length := by
    decide
  obtain ⟨m, m', outs, last, hm, hm', houts, hlengths, hback⟩ := cryptAll_opposite
    (rfl : make .rc2 [1, 2, 3, 4, 5] 40 = .ok _) hiv
    (by decide : Direction.ofLabel "decrypt" ≠ Direction.ofLabel "encrypt") hpieces
  -- there is one piece, of 24 octets, and it is cut behind the first eight
  obtain ⟨out, rfl⟩ : ∃ out, outs = [out] :=
    List.length_eq_one_iff.mp (by simpa using congrArg List.length hlengths)
  have hlen : out.length = 24 := by simpa using hlengths
  obtain ⟨outs', last', houts', hdata⟩ := hback [out.take 8, out.drop 8] (by simp [hlen]) (by simp)
  exact ⟨_, m, m', out, last, rfl, hm, hm', houts, outs', last', houts', by simpa using hdata⟩

end Cipher

end Shroud
