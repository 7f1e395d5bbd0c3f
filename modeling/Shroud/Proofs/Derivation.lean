import Shroud.Derivation
import Shroud.Proofs.Bytes

/-!
# Derivation block by block

RFC 7292, Appendix B.2, describes key derivation by blocks that are numbers: the diversifier block `D`, the
input `I` of blocks `I_j`, and outputs `A_i`, each the digest of `D || I` taken `rounds` times. Between two
outputs every block `I_j` becomes `(I_j + B + 1) mod 2 ^ (8 v)`, where `B` is `A_i` repeated to a block. The
derived octets are the first ones of `A_1 || A_2 || ...`.

`Standard.octets` is this description, with positions for repetition and the outputs numbered from zero.
The library's derivation stretches, hashes, stops early and updates in another order, and gives the same
octets for every digest (`derive_eq_standard`). The steps are

* `stretch_eq_filled`: stretching is repetition by positions;
* `advance_eq_following`: the update of the input is the update of its blocks;
* `generate_eq_take_outputs`: by induction on the length that is still missing, the octets that are
  generated are the first ones of the outputs in a row. The induction step moves the whole row of outputs
  one place on, since the later rounds start with the updated input.
-/

namespace Shroud

/-- An output of a digest is never empty. -/
theorem Digest.ne_nil_of_length_eq (H : Digest) {output : Bytes} (h : output.length = H.outputSize) : output ≠ [] := by
  have hpos := H.outputSize_pos
  exact List.ne_nil_of_length_pos (by omega)

namespace Derivation

/-! ### The description -/

namespace Standard

/-- The octets of `bs` over and over again, `n` in all. -/
def copied (n : Nat) (bs : Bytes) : Bytes :=
  (List.range n).map fun i => bs.getD (i % bs.length) 0

/-- The octets of `bs` over and over again, to the end of the last block of `v` octets that is begun. -/
def filled (v : Nat) (bs : Bytes) : Bytes :=
  copied (v * (bs.length ⌈/⌉ v)) bs

/-- The output for an input: the digest, taken `rounds` times, of the diversifier block and the input. -/
def output (H : Digest) (diversifier : Bytes) (rounds : Nat) (input : Bytes) : Bytes :=
  H.hash^[rounds] (diversifier ++ input)

/-- The input with `B + 1` added to each of its blocks of `v` octets, modulo `2 ^ (8 * v)`. -/
def updated (v B : Nat) (input : Bytes) : Bytes :=
  (List.range (input.length / v)).flatMap fun j =>
    Bytes.ofNat v (((Bytes.block v input j).toNat + B + 1) % 2 ^ (8 * v))

/-- The input after an input. -/
def following (H : Digest) (diversifier : Bytes) (rounds : Nat) (input : Bytes) : Bytes :=
  let B := (copied H.blockSize (output H diversifier rounds input)).toNat
  updated H.blockSize B input

/-- The outputs of `n` rounds from `input` on, in a row. -/
def outputs (H : Digest) (diversifier : Bytes) (rounds : Nat) (input : Bytes) (n : Nat) : Bytes :=
  (List.range n).flatMap fun i =>
    output H diversifier rounds ((following H diversifier rounds)^[i] input)

/-- **The derived octets**: `length` octets of as many outputs as hold them. -/
def octets (H : Digest) (salt password : Bytes) (purpose : UInt8) (rounds length : Nat) : Bytes :=
  let diversifier := List.replicate H.blockSize purpose
  let input := filled H.blockSize salt ++ filled H.blockSize password
  (outputs H diversifier rounds input (length ⌈/⌉ H.outputSize)).take length

end Standard

open Standard

/-! ### Repetition -/

/-- Repeating by copies is repeating by positions. -/
theorem cycle_eq_copied {bs : Bytes} (hbs : bs ≠ []) (n : Nat) : Bytes.cycle n bs = copied n bs := by
  have hpos : 0 < bs.length := List.length_pos_iff.mpr hbs
  refine List.ext_getElem? fun i => ?_
  -- both have `n` octets, and the same one at each position
  by_cases hi : i < n
  · have hmod : i % bs.length < bs.length := Nat.mod_lt i hpos
    rw [Bytes.getElem?_cycle hi, List.getElem?_eq_getElem hmod]
    simp [copied, hi, hmod]
  · have hlen := Bytes.length_cycle hbs n
    rw [List.getElem?_eq_none (by omega), List.getElem?_eq_none (by simp [copied]; omega)]

/-- A string is stretched as the standard fills a block. -/
theorem stretch_eq_filled (v : Nat) (bs : Bytes) : stretch v bs = filled v bs := by
  unfold stretch filled
  rw [Nat.ceilDiv_eq_add_pred_div]
  by_cases hbs : bs = []
  · -- nothing is repeated, whatever the size of a block
    by_cases hv : v = 0
    · simp [hbs, hv, copied]
    · have hzero : (v - 1) / v = 0 := Nat.div_eq_of_lt (by omega)
      simp [hbs, copied, hzero]
  · exact cycle_eq_copied hbs _

/-- A string stands in front of what it is stretched to. -/
theorem exists_stretch_eq_append {v : Nat} (hv : 0 < v) (bs : Bytes) : ∃ rest, stretch v bs = bs ++ rest := by
  refine Bytes.exists_cycle_eq_append ?_
  -- the last block that is begun is filled
  have hdiv := Nat.div_add_mod (bs.length + v - 1) v
  have hmod := Nat.mod_lt (bs.length + v - 1) hv
  omega

/-- A block size that is a positive integer stretches as the number does. -/
theorem stretch?_natCast {v : Nat} (hv : 0 < v) (bs : Bytes) : stretch? v bs = .ok (stretch v bs) := by
  unfold stretch?
  by_cases hbs : bs = []
  · rw [if_pos hbs, hbs, stretch, Bytes.cycle_nil]
  · have hpos : 0 < bs.length := List.length_pos_iff.mpr hbs
    have hsum : (bs.length : Int) + v - 1 = (bs.length + v - 1 : Nat) := by omega
    rw [if_neg hbs, if_neg (by omega), hsum, ← Int.ofNat_fdiv, ← Int.natCast_mul, Int.toNat_natCast]
    rfl

@[simp] theorem length_filled (v : Nat) (bs : Bytes) :
    (filled v bs).length = v * (bs.length ⌈/⌉ v) := by
  simp [filled, copied]

/-! ### One round -/

/-- Rounds are the digest taken again and again. -/
theorem iterate_eq (H : Digest) (rounds : Nat) (message : Bytes) :
    H.iterate rounds message = H.hash^[rounds] message := by
  induction rounds generalizing message with
  | zero => rfl
  | succ rounds ih => exact ih (H.hash message)

/-- One block of output is that of the standard. -/
theorem roundOutput_eq_output (H : Digest) (diversifier : Bytes) (rounds : Nat) (input : Bytes) :
    roundOutput H diversifier rounds input = output H diversifier rounds input :=
  iterate_eq H rounds _

theorem output_ne_nil (H : Digest) (diversifier : Bytes) {rounds : Nat} (h : 0 < rounds)
    (input : Bytes) : output H diversifier rounds input ≠ [] := by
  have hlen := length_roundOutput H diversifier h input
  rw [roundOutput_eq_output] at hlen
  exact H.ne_nil_of_length_eq hlen

/-- The input is advanced as the standard updates it, block by block. -/
theorem advance_eq_updated {v : Nat} (hv : 0 < v) {output input : Bytes} (houtput : output ≠ [])
    (hinput : v ∣ input.length) :
    advance v output input = updated v (copied v output).toNat input := by
  obtain ⟨count, hcount⟩ := hinput
  have hquot : input.length / v = count := by rw [hcount, Nat.mul_div_cancel_left _ hv]
  -- an input of whole blocks is cut where the description counts its blocks
  unfold advance updated
  rw [Bytes.pieces_eq_map_block hv hcount, hquot, cycle_eq_copied houtput, List.flatMap_map]
  rfl

/-- Updating keeps whole blocks. -/
@[simp] theorem length_updated (v B : Nat) (input : Bytes) :
    (updated v B input).length = v * (input.length / v) :=
  Bytes.length_flatMap_range (fun _ => Bytes.length_ofNat v _) _

theorem dvd_length_following (H : Digest) (diversifier : Bytes) (rounds : Nat) (input : Bytes) :
    H.blockSize ∣ (following H diversifier rounds input).length := by
  simp [following]

/-- The next input is the one of the standard. -/
theorem advance_eq_following (H : Digest) (diversifier : Bytes) {rounds : Nat} (h : 0 < rounds)
    {input : Bytes} (hinput : H.blockSize ∣ input.length) :
    advance H.blockSize (roundOutput H diversifier rounds input) input
      = following H diversifier rounds input := by
  rw [roundOutput_eq_output,
    advance_eq_updated H.blockSize_pos (output_ne_nil H diversifier h input) hinput]
  rfl

/-! ### All rounds -/

/-- After the first output come those from the next input on. -/
theorem outputs_succ (H : Digest) (diversifier : Bytes) (rounds : Nat) (input : Bytes) (n : Nat) :
    outputs H diversifier rounds input (n + 1)
      = output H diversifier rounds input
        ++ outputs H diversifier rounds (following H diversifier rounds input) n := by
  simp only [outputs, List.range_succ_eq_map, List.flatMap_cons, List.flatMap_map,
    Function.iterate_succ_apply, Function.iterate_zero_apply]

/-- One output holds up to as many octets as it has. -/
theorem ceilDiv_eq_one {n u : Nat} (hpos : 0 < n) (hle : n ≤ u) : n ⌈/⌉ u = 1 := by
  rw [Nat.ceilDiv_eq_add_pred_div]
  exact Nat.div_eq_of_lt_le (by omega) (by omega)

/-- More octets than one output has take one output and as many as the other octets take. -/
theorem ceilDiv_eq_succ {n u : Nat} (hu : 0 < u) (hlt : u < n) : n ⌈/⌉ u = (n - u) ⌈/⌉ u + 1 := by
  rw [Nat.ceilDiv_eq_add_pred_div, Nat.ceilDiv_eq_add_pred_div, ← Nat.add_div_right _ hu]
  congr 1
  omega

/-- **The last round**: its output holds all the octets. -/
theorem generate_of_le {H : Digest} {diversifier : Bytes} {rounds length : Nat} (h : 0 < rounds) (input : Bytes)
    (hle : length ≤ H.outputSize) :
    generate H diversifier rounds h input length = (roundOutput H diversifier rounds input).take length := by
  rw [generate, dif_pos (by rwa [length_roundOutput H diversifier h])]

/-- **Any other round**: its output is used up, and the rounds after it start with the input moved on. -/
theorem generate_of_lt {H : Digest} {diversifier : Bytes} {rounds length : Nat} (h : 0 < rounds) (input : Bytes)
    (hlt : H.outputSize < length) :
    generate H diversifier rounds h input length
      = roundOutput H diversifier rounds input
        ++ generate H diversifier rounds h
          (advance H.blockSize (roundOutput H diversifier rounds input) input) (length - H.outputSize) := by
  have hlen := length_roundOutput H diversifier h input
  rw [generate, dif_neg (by omega)]
  simp only [hlen]

/-- **What is generated** is the beginning of the outputs in a row. -/
theorem generate_eq_take_outputs (H : Digest) (diversifier : Bytes) {rounds : Nat} (h : 0 < rounds)
    {input : Bytes} (hinput : H.blockSize ∣ input.length) (length : Nat) :
    generate H diversifier rounds h input length
      = (outputs H diversifier rounds input (length ⌈/⌉ H.outputSize)).take length := by
  have hpos := H.outputSize_pos
  induction length using Nat.strong_induction_on generalizing input with
  | _ length ih =>
    have hlen := length_roundOutput H diversifier h input
    by_cases henough : length ≤ H.outputSize
    · rw [generate_of_le h input henough, roundOutput_eq_output]
      by_cases hzero : length = 0
      · simp [hzero]
      · -- one output holds all the octets
        rw [roundOutput_eq_output] at hlen
        rw [ceilDiv_eq_one (by omega) henough, outputs_succ, List.take_append_of_le_length (by omega)]
    · -- one output is used up, and the others are those from the next input on
      have hfirst : (roundOutput H diversifier rounds input).take length
          = roundOutput H diversifier rounds input := List.take_of_length_le (by omega)
      have hmore := ceilDiv_eq_succ hpos (by omega : H.outputSize < length)
      -- the first output comes off, and so does one block of the number to be made
      rw [generate_of_lt h input (by omega), advance_eq_following H diversifier h hinput,
        ih _ (by omega) (dvd_length_following H diversifier rounds input), hmore, outputs_succ,
        ← roundOutput_eq_output, List.take_append, hlen, hfirst]

theorem dvd_length_firstInput (H : Digest) (salt password : Bytes) :
    H.blockSize ∣ (firstInput H salt password).length := by
  -- salt and password are each filled up to whole blocks
  rw [firstInput, stretch_eq_filled, stretch_eq_filled, List.length_append, length_filled,
    length_filled, ← Nat.mul_add]
  exact Nat.dvd_mul_right _ _

/-- **The octets derived are those of the standard.** -/
theorem deriveWith_eq_octets (H : Digest) (salt password : Bytes) (purpose : UInt8)
    {rounds : Nat} (h : 0 < rounds) (length : Nat) :
    deriveWith H salt password rounds h purpose.toNat length
      = octets H salt password purpose rounds length := by
  have hblock : diversifierBlock H purpose.toNat = List.replicate H.blockSize purpose := by
    simp [diversifierBlock]
  unfold deriveWith
  rw [generate_eq_take_outputs H _ h (dvd_length_firstInput H salt password), hblock, firstInput,
    stretch_eq_filled, stretch_eq_filled]
  rfl

/-- **As many octets are generated as were asked for.** -/
theorem length_generate (H : Digest) (diversifier : Bytes) {rounds : Nat} (h : 0 < rounds)
    (input : Bytes) (length : Nat) : (generate H diversifier rounds h input length).length = length := by
  fun_induction generate with
  | case1 input length output henough =>
    rw [List.length_take]
    omega
  | case2 input length output hmore ih =>
    rw [List.length_append, ih]
    omega

@[simp] theorem length_deriveWith (H : Digest) (salt password : Bytes) {rounds : Nat} (h : 0 < rounds)
    (id length : Nat) : (deriveWith H salt password rounds h id length).length = length :=
  length_generate H _ h _ length

/-- Arguments that are in range are not refused. -/
theorem derive_of_digestOf {digest : Value} {H : Digest} (known : digestOf digest = .ok H)
    (salt password : Bytes) (purpose : UInt8) {rounds length : Nat} (hrounds : 0 < rounds)
    (hlength : 0 < length) :
    derive salt password rounds purpose.toNat length digest
      = .ok (deriveWith H salt password rounds hrounds purpose.toNat length) := by
  -- the checks come in the order digest, count, length, diversifier
  have hid := purpose.toNat_lt
  have hrange : ¬ ((purpose.toNat : Int) < 0 ∨ 255 < (purpose.toNat : Int)) := by omega
  have hlong : ¬ ((length : Int) < 1) := by omega
  simp only [derive, known, Int.toNat_natCast]
  rw [dif_pos hrounds, if_neg hlong, if_neg hrange]

/-- A count below one is refused under every known digest, whatever the other arguments are. -/
theorem derive_of_lt_one {digest : Value} {H : Digest} (known : digestOf digest = .ok H)
    (salt password : Bytes) {rounds : Int} (h : rounds < 1) (id length : Int) :
    derive salt password rounds id length digest = .error (Failure.derivation (.iterations rounds)).checked := by
  simp only [derive, known]
  rw [dif_neg (by omega)]

/-- A length below one is refused next. -/
theorem derive_of_length_lt_one {digest : Value} {H : Digest} (known : digestOf digest = .ok H)
    (salt password : Bytes) {rounds : Int} (hrounds : 1 ≤ rounds) (id : Int) {length : Int} (h : length < 1) :
    derive salt password rounds id length digest = .error (Failure.derivation (.outputLength length)).checked := by
  simp only [derive, known]
  rw [dif_pos (by omega), if_pos h]

/-- What is no digest is refused before anything else is looked at. -/
theorem derive_of_digestOf_eq_error {digest : Value} {failure : Failure} (unknown : digestOf digest = .error failure)
    (salt password : Bytes) (rounds id length : Int) :
    derive salt password rounds id length digest = .error failure := by
  simp only [derive, unknown]

/-- A name is that of a digest, or is reported as the name of none. -/
theorem digestOf_text (name : String) :
    digestOf (.text name)
      = match Digest.named? name with
        | some H => .ok H
        | none => .error (.derivation (.unknownDigest name)) := by
  rfl

/-- Names stand for two digests only. -/
theorem eq_of_digestOf {digest : Value} {H : Digest} (known : digestOf digest = .ok H) : H = .sha1 ∨ H = .sha256 := by
  unfold digestOf at known
  split at known
  · exact nomatch known
  · split at known
    · next hnamed =>
      obtain rfl := Except.ok.inj known
      obtain ⟨name, -, hname⟩ := Option.bind_eq_some_iff.mp hnamed
      -- two names are known, and any other has no digest
      unfold Digest.named? at hname
      split at hname
      · exact .inl (Option.some.inj hname).symm
      · exact .inr (Option.some.inj hname).symm
      · exact nomatch hname
    · split at known <;> exact nomatch known

/-- Both digests work on blocks of 64 octets. -/
theorem blockSize_of_digestOf {digest : Value} {H : Digest} (known : digestOf digest = .ok H) : H.blockSize = 64 := by
  obtain rfl | rfl := eq_of_digestOf known
  · rfl
  · rfl

/-- What could be derived had a positive count. -/
theorem one_le_of_derive_eq_ok {salt password derived : Bytes} {rounds id length : Int} {digest : Value}
    (h : derive salt password rounds id length digest = .ok derived) : 1 ≤ rounds := by
  unfold derive at h
  split at h
  · exact absurd h (by simp)
  · split at h
    · omega
    · exact absurd h (by simp)

/-- **Derivation is the construction of RFC 7292, Appendix B.2.** For every digest, whatever its function and
its two sizes, the derived octets are those of `Standard.octets`; and a call that names one of the two known
digests, with a count and a length of at least one, is not refused and returns them. -/
theorem derive_eq_standard (salt password : Bytes) (purpose : UInt8) {rounds length : Nat}
    (hrounds : 0 < rounds) (hlength : 0 < length) :
    (∀ H : Digest, deriveWith H salt password rounds hrounds purpose.toNat length
      = octets H salt password purpose rounds length)
    ∧ derive salt password rounds purpose.toNat length (.text "sha1")
      = .ok (octets .sha1 salt password purpose rounds length)
    ∧ derive salt password rounds purpose.toNat length (.text "sha256")
      = .ok (octets .sha256 salt password purpose rounds length) := by
  have hany := fun H => deriveWith_eq_octets H salt password purpose hrounds length
  refine ⟨hany, ?_, ?_⟩
  · rw [derive_of_digestOf (H := .sha1) rfl salt password purpose hrounds hlength, hany]
  · rw [derive_of_digestOf (H := .sha256) rfl salt password purpose hrounds hlength, hany]

/-- A length of 24 takes two outputs of SHA-1, with an update of the input between them. -/
theorem derive_eq_standard_two_outputs :
    0 < 2 ∧ 0 < 24
    ∧ derive [0xff, 0xfe] [] (2 : Nat) (1 : UInt8).toNat (24 : Nat) (.text "sha1")
      = .ok (octets .sha1 [0xff, 0xfe] [] 1 2 24) :=
  ⟨by decide, by decide, (derive_eq_standard [0xff, 0xfe] [] 1 (by decide) (by decide)).2.1⟩

end Derivation

end Shroud
