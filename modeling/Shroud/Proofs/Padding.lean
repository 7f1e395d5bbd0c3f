import Mathlib.Data.List.Basic
import Shroud.Padding

/-!
# Unpadding accepts what padding makes

Unpadding with a block size accepts exactly the buffers that end in `k` octets `k`, for some `k` of at least
one and at most the block size, and gives what stands before these (`strip?_eq_some_iff`,
`unpad_eq_ok_iff`). Of buffers that
are whole blocks, only one is padded for each message: the one that `pad` makes (`strip?_eq_some_iff_pad`),
because the length leaves a single `k`.

Neither the length of the buffer nor the block size is restricted: the buffer may be shorter than its last octet
says, or no whole blocks, and a block size may be negative or more than an octet can say. `unpad_exactly` is the
whole of unpadding for every buffer with octets in it, also what is left of the buffer.
-/

namespace Shroud.Padding

/-- A buffer is cut in two at its last octets. -/
theorem take_append_lastOctets (n : Nat) (bs : Bytes) :
    bs.take (bs.length - n) ++ lastOctets n bs = bs :=
  List.take_append_drop _ bs

/-- What stands at the end are the last octets. -/
theorem lastOctets_append {n : Nat} {as bs : Bytes} (h : bs.length = n) :
    lastOctets n (as ++ bs) = bs := by
  have hlen : (as ++ bs).length - n = as.length := by
    rw [List.length_append]
    omega
  rw [lastOctets, hlen, List.drop_left]

/-- **Unpadding accepts exactly padded buffers.** -/
theorem strip?_eq_some_iff (blockSize : Int) (padded plaintext : Bytes) :
    strip? blockSize padded = some plaintext ↔
      ∃ k : UInt8, 1 ≤ k.toNat ∧ (k.toNat : Int) ≤ blockSize
        ∧ padded = plaintext ++ List.replicate k.toNat k := by
  unfold strip?
  constructor
  · intro h
    split at h
    · exact absurd h (by simp)
    · next last _ =>
      dsimp only at h
      split at h
      · next hvalid =>
        -- what was compared are the octets that are taken away
        obtain ⟨hpos, hle, hlast⟩ := hvalid
        refine ⟨last, hpos, hle, ?_⟩
        rw [← Option.some.inj h, ← hlast, take_append_lastOctets]
      · exact absurd h (by simp)
  · rintro ⟨k, hpos, hle, rfl⟩
    have hlast : (plaintext ++ List.replicate k.toNat k).getLast? = some k := by
      simp [List.getLast?_append, List.getLast?_replicate, show k.toNat ≠ 0 by omega]
    have hcount : lastOctets k.toNat (plaintext ++ List.replicate k.toNat k)
        = List.replicate k.toNat k := lastOctets_append List.length_replicate
    simp [hlast, hpos, hle, hcount]

/-- **Padding fills the last block**, or adds one. -/
@[simp] theorem length_pad {blockSize : Nat} (h : 0 < blockSize) (message : Bytes) :
    (pad blockSize message).length = blockSize * (message.length / blockSize + 1) := by
  have hdiv := Nat.div_add_mod message.length blockSize
  have hmod := Nat.mod_lt message.length h
  simp only [pad, List.length_append, List.length_replicate, Nat.mul_add, Nat.mul_one]
  omega

/-- A padded message consists of whole blocks, of one at least. -/
theorem pad_admitted {blockSize : Nat} (h : 0 < blockSize) (message : Bytes) :
    0 < (pad blockSize message).length ∧ blockSize ∣ (pad blockSize message).length := by
  rw [length_pad h]
  exact ⟨Nat.mul_pos h (Nat.succ_pos _), Nat.dvd_mul_right _ _⟩

/-- Unpadding takes at least one octet away, and at most a block. -/
theorem length_of_strip?_eq_some {blockSize : Int} {padded plaintext : Bytes}
    (h : strip? blockSize padded = some plaintext) :
    plaintext.length < padded.length ∧ (padded.length : Int) ≤ plaintext.length + blockSize := by
  obtain ⟨k, hpos, hle, rfl⟩ := (strip?_eq_some_iff blockSize padded plaintext).mp h
  rw [List.length_append, List.length_replicate]
  omega

/-- **Whole blocks that are padded** are what padding makes of the plaintext. -/
theorem strip?_eq_some_iff_pad {blockSize : Nat} (hpos : 0 < blockSize) (hle : blockSize ≤ 255)
    {padded : Bytes} (haligned : blockSize ∣ padded.length) (plaintext : Bytes) :
    strip? blockSize padded = some plaintext ↔ padded = pad blockSize plaintext := by
  have hmod := Nat.mod_lt plaintext.length hpos
  have hdiv := Nat.div_add_mod plaintext.length blockSize
  rw [strip?_eq_some_iff]
  constructor
  · rintro ⟨k, hk, hkle, rfl⟩
    -- the octets that complete the last block are determined by the length of the plaintext
    have hcount : k.toNat = blockSize - plaintext.length % blockSize := by
      rw [List.length_append, List.length_replicate] at haligned
      have hrest := (Nat.dvd_add_right (Nat.dvd_mul_right blockSize _)).mp
        (by rwa [← Nat.add_assoc, hdiv] :
          blockSize ∣ blockSize * (plaintext.length / blockSize)
            + (plaintext.length % blockSize + k.toNat))
      obtain ⟨q, hq⟩ := hrest
      have hlow : 0 < q := Nat.pos_of_ne_zero (by rintro rfl; omega)
      have hhigh : q < 2 := Nat.lt_of_mul_lt_mul_left (a := blockSize) (by omega)
      obtain rfl : q = 1 := by omega
      omega
    rw [pad, ← hcount]
    simp
  · rintro rfl
    -- the count fits into an octet, so the octets that are written say it
    have hoctet : (UInt8.ofNat (blockSize - plaintext.length % blockSize)).toNat
        = blockSize - plaintext.length % blockSize := by
      rw [UInt8.toNat_ofNat', Nat.mod_eq_of_lt (by omega)]
    refine ⟨UInt8.ofNat (blockSize - plaintext.length % blockSize), ?_, ?_, ?_⟩
    · omega
    · omega
    · rw [hoctet, pad]

theorem unpad_eq_ok_iff (blockSize : Int) (buffer plaintext : Bytes) :
    (unpad blockSize buffer).1 = .ok plaintext ↔ strip? blockSize buffer = some plaintext := by
  unfold unpad
  -- an empty buffer is refused by itself, and has nothing to strip either
  cases buffer with
  | nil => simp [strip?]
  | cons b bs =>
    cases strip? blockSize (b :: bs) <;> simp

/-- A buffer with octets in it is wiped, whether or not it is padded. -/
theorem unpad_of_ne_nil (blockSize : Int) {buffer : Bytes} (h : buffer ≠ []) :
    unpad blockSize buffer
      = ((strip? blockSize buffer).elim (.error .padding) .ok, Bytes.wiped buffer) := by
  rw [unpad, if_neg (by simpa using h)]
  cases strip? blockSize buffer <;> rfl

/-- **The buffer is wiped** in either case. -/
theorem snd_unpad (blockSize : Int) (buffer : Bytes) : (unpad blockSize buffer).2 = Bytes.wiped buffer := by
  obtain rfl | h := eq_or_ne buffer []
  · rfl
  · rw [unpad_of_ne_nil blockSize h]

/-- **A buffer with octets in it** is unpadded, or fails with the one failure of padding. -/
theorem unpad_cases (blockSize : Int) {buffer : Bytes} (h : buffer ≠ []) :
    (∃ plaintext, (unpad blockSize buffer).1 = .ok plaintext)
      ∨ (unpad blockSize buffer).1 = .error .padding := by
  rw [unpad_of_ne_nil blockSize h]
  cases strip? blockSize buffer with
  | none => exact .inr rfl
  | some plaintext => exact .inl ⟨plaintext, rfl⟩

/-! ### The whole of unpadding -/

/-- **A padded buffer**: behind the plaintext stand `k` octets, each of which says `k`, for some `k` of at least
one and at most the block size. -/
def Padded (blockSize : Int) (buffer plaintext : Bytes) : Prop :=
  ∃ (k : Nat) (tail : Bytes), 1 ≤ k ∧ (k : Int) ≤ blockSize ∧ buffer = plaintext ++ tail
    ∧ tail.length = k ∧ ∀ b ∈ tail, b.toNat = k

/-- **What can be stripped is what is padded.** -/
theorem strip?_eq_some_iff_padded {blockSize : Int} {buffer plaintext : Bytes} :
    strip? blockSize buffer = some plaintext ↔ Padded blockSize buffer plaintext := by
  rw [strip?_eq_some_iff]
  constructor
  · rintro ⟨k, hpos, hle, rfl⟩
    refine ⟨k.toNat, List.replicate k.toNat k, hpos, hle, rfl, List.length_replicate, ?_⟩
    intro b hb
    rw [List.eq_of_mem_replicate hb]
  · rintro ⟨k, tail, hpos, hle, rfl, hlen, htells⟩
    -- there is an octet that says the number, so it is the number of an octet
    obtain ⟨b, hb⟩ := List.exists_mem_of_length_pos (by omega : 0 < tail.length)
    have htail : tail = List.replicate b.toNat b := by
      refine List.eq_replicate_iff.mpr ⟨hlen.trans (htells b hb).symm, fun b' hb' => ?_⟩
      exact UInt8.toNat_inj.mp ((htells b' hb').trans (htells b hb).symm)
    refine ⟨b, ?_, ?_, by rw [← htail]⟩
    · rwa [htells b hb]
    · rwa [htells b hb]

/-- **Unpadding accepts exactly padded buffers and always wipes.** For every buffer with octets in it, of any
length, and every block size, of any sign: the result is a plaintext exactly if the buffer is padded behind that
plaintext; every failure is the one failure of padding, and there is one exactly if the buffer is padded behind no
plaintext at all. In either case the buffer keeps its length, and all its octets are zero afterwards. -/
theorem unpad_exactly (blockSize : Int) {buffer : Bytes} (h : buffer ≠ []) :
    (∀ plaintext, (unpad blockSize buffer).1 = .ok plaintext ↔ Padded blockSize buffer plaintext)
    ∧ (∀ failure, (unpad blockSize buffer).1 = .error failure
      ↔ failure = .padding ∧ ¬ ∃ plaintext, Padded blockSize buffer plaintext)
    ∧ (unpad blockSize buffer).2.length = buffer.length
    ∧ ∀ b ∈ (unpad blockSize buffer).2, b = 0 := by
  have hok : ∀ plaintext, (unpad blockSize buffer).1 = .ok plaintext ↔ Padded blockSize buffer plaintext :=
    fun plaintext => (unpad_eq_ok_iff blockSize buffer plaintext).trans strip?_eq_some_iff_padded
  refine ⟨hok, fun failure => ?_, ?_, ?_⟩
  · constructor
    · intro hfailure
      -- a failure is no result, and of failures there is one only
      obtain ⟨plaintext, hplaintext⟩ | hpadding := unpad_cases blockSize h
      · exact absurd (hplaintext.symm.trans hfailure) (by simp)
      · refine ⟨Except.error.inj (hfailure.symm.trans hpadding), ?_⟩
        rintro ⟨plaintext, hpadded⟩
        exact absurd (hpadding.symm.trans ((hok plaintext).mpr hpadded)) (by simp)
    · rintro ⟨rfl, hnone⟩
      obtain ⟨plaintext, hplaintext⟩ | hpadding := unpad_cases blockSize h
      · exact absurd ⟨plaintext, (hok plaintext).mp hplaintext⟩ hnone
      · exact hpadding
  · rw [unpad_of_ne_nil blockSize h, Bytes.length_wiped]
  · rw [unpad_of_ne_nil blockSize h]
    exact fun b hb => List.eq_of_mem_replicate hb

/-- Under a block size that no octet can say, three octets give one. The same octets are not padded under a block
size of zero. A buffer that is shorter than its last octet says is not padded either, although all its octets are
equal. -/
theorem unpad_exactly_beyond_blocks :
    (unpad 300 [0x41, 2, 2]).1 = .ok [0x41] ∧ (∀ b ∈ (unpad 300 [0x41, 2, 2]).2, b = 0)
      ∧ (unpad 0 [0x41, 2, 2]).1 = .error .padding ∧ (unpad 0 [0x41, 2, 2]).2.length = 3
      ∧ (unpad 8 [3, 3]).1 = .error .padding ∧ ∀ b ∈ (unpad 8 [3, 3]).2, b = 0 := by
  obtain ⟨hresult, -, -, hwiped⟩ := unpad_exactly 300 (by decide : ([0x41, 2, 2] : Bytes) ≠ [])
  obtain ⟨-, hfailure, hlength, -⟩ := unpad_exactly 0 (by decide : ([0x41, 2, 2] : Bytes) ≠ [])
  obtain ⟨-, hshort, -, hshortWiped⟩ := unpad_exactly 8 (by decide : ([3, 3] : Bytes) ≠ [])
  refine ⟨(hresult _).mpr ?_, hwiped, (hfailure _).mpr ⟨rfl, ?_⟩, hlength, (hshort _).mpr ⟨rfl, ?_⟩, hshortWiped⟩
  · exact ⟨2, [2, 2], by decide, by decide, rfl, rfl, by simp⟩
  · rintro ⟨plaintext, k, tail, hpos, hle, -⟩
    omega
  · rintro ⟨plaintext, hpadded⟩
    have hnone : strip? 8 [3, 3] = none := rfl
    exact absurd (hnone.symm.trans (strip?_eq_some_iff_padded.mpr hpadded)) (by simp)

end Shroud.Padding
