import Shroud.Proofs.Derivation

/-!
# Derived octets are one stream

A shorter derivation is the beginning of a longer one. The two do not stop in the same round, and what a round adds
depends on whether it is the last. `Derivation.Runs` says in how many rounds a number of octets is generated, one
constructor for the last round and one for every other; it holds of one number of rounds and one result, those of
`Derivation.generate` (`runs_iff`).

* A run takes as many rounds as there are outputs of the digest in the length, a begun one included
  (`Runs.rounds_eq`, `exists_runs`), by induction on the run: every round but the last uses its output up.
* What is generated for a length begins with what is generated for any smaller one (`take_generate`), by induction on
  the recursion for the larger length: until the round in which the shorter derivation stops, both have the same
  input.

`derive_one_stream` puts the two together for the checked entry. All of this is about how many rounds there are and
where they stop, and would hold of rounds that hash something else. What the rounds hash, and how the input moves on
between them, is compared with the standard in `derive_eq_standard`.
-/

namespace Shroud.Derivation

variable {H : Digest} {diversifier input derived : Bytes} {iterations length rounds : Nat}

/-! ### Counting rounds -/

/-- **A run of rounds.** From `input` on, `length` octets are generated in so many rounds. The last round is the first
one whose output holds all the octets that are still missing. After any other round its output is used up, and the
input moves on. The outputs are those of the model; that they are the standard's is said by `derive_eq_standard`. -/
inductive Runs (H : Digest) (diversifier : Bytes) (iterations : Nat) :
    (input : Bytes) → (length rounds : Nat) → (derived : Bytes) → Prop
  | last {input : Bytes} {length : Nat}
      (enough : length ≤ (roundOutput H diversifier iterations input).length) :
      Runs H diversifier iterations input length 1
        ((roundOutput H diversifier iterations input).take length)
  | next {input derived : Bytes} {length rounds : Nat}
      (short : (roundOutput H diversifier iterations input).length < length)
      (rest : Runs H diversifier iterations
        (advance H.blockSize (roundOutput H diversifier iterations input) input)
        (length - (roundOutput H diversifier iterations input).length) rounds derived) :
      Runs H diversifier iterations input length (rounds + 1)
        (roundOutput H diversifier iterations input ++ derived)

/-- What a run gives is what is generated. -/
theorem Runs.eq_generate (h : Runs H diversifier iterations input length rounds derived)
    (positive : 0 < iterations) : derived = generate H diversifier iterations positive input length := by
  -- generating takes the same two steps, by the length of an output
  induction h with
  | last enough =>
    rw [length_roundOutput H diversifier positive] at enough
    exact (generate_of_le positive _ enough).symm
  | next short _ ih =>
    rw [length_roundOutput H diversifier positive] at short ih
    rw [generate_of_lt positive _ short, ih]

/-- **The number of rounds** is that of the outputs which hold the octets. -/
theorem Runs.rounds_eq (h : Runs H diversifier iterations input length rounds derived)
    (positive : 0 < iterations) (hlength : 1 ≤ length) : rounds = length ⌈/⌉ H.outputSize := by
  induction h with
  | last enough =>
    rw [length_roundOutput H diversifier positive] at enough
    exact (ceilDiv_eq_one hlength enough).symm
  | next short _ ih =>
    rw [length_roundOutput H diversifier positive] at short ih
    -- something is missing after this round, so the induction counts the rounds for it
    rw [ih (by omega), ceilDiv_eq_succ H.outputSize_pos short]

/-- Generating ends, after some number of rounds. -/
theorem exists_runs (positive : 0 < iterations) (input : Bytes) (length : Nat) :
    ∃ rounds, Runs H diversifier iterations input length rounds
      (generate H diversifier iterations positive input length) := by
  fun_induction generate with
  | case1 input length output enough => exact ⟨1, .last enough⟩
  | case2 input length output short ih =>
    obtain ⟨rounds, hrest⟩ := ih
    exact ⟨rounds + 1, .next (Nat.not_le.mp short) hrest⟩

/-- **There is one run for each length**, with as many rounds as there are outputs in the length. -/
theorem runs_iff (positive : 0 < iterations) (hlength : 1 ≤ length) :
    Runs H diversifier iterations input length rounds derived
      ↔ rounds = length ⌈/⌉ H.outputSize
        ∧ derived = generate H diversifier iterations positive input length := by
  constructor
  · intro h
    exact ⟨h.rounds_eq positive hlength, h.eq_generate positive⟩
  · rintro ⟨rfl, rfl⟩
    obtain ⟨rounds, h⟩ : ∃ rounds, Runs H diversifier iterations input length rounds _ :=
      exists_runs positive input length
    -- some run generates the octets, and every run has this many rounds
    rwa [h.rounds_eq positive hlength] at h

/-! ### Shorter and longer derivations -/

/-- **A shorter derivation is the beginning of a longer one.** -/
theorem take_generate (positive : 0 < iterations) (input : Bytes) {m n : Nat} (h : m ≤ n) :
    (generate H diversifier iterations positive input n).take m
      = generate H diversifier iterations positive input m := by
  have hpos := H.outputSize_pos
  induction n using Nat.strong_induction_on generalizing input m with
  | _ n ih =>
    have hlen := length_roundOutput H diversifier positive input
    by_cases hn : n ≤ H.outputSize
    · -- both stop in this round
      rw [generate_of_le positive input hn, generate_of_le positive input (h.trans hn), List.take_take,
        Nat.min_eq_left h]
    · rw [generate_of_lt positive input (by omega)]
      by_cases hm : m ≤ H.outputSize
      · rw [generate_of_le positive input hm, List.take_append_of_le_length (by omega)]
      · -- both go on with the same input, and lack as many octets less
        have hall : (roundOutput H diversifier iterations input).take m
            = roundOutput H diversifier iterations input := List.take_of_length_le (by omega)
        rw [generate_of_lt positive input (by omega), List.take_append, hall, hlen,
          ih (n - H.outputSize) (by omega) _ (by omega)]

/-- **Derived octets are one stream.** For a supported digest, every salt, password and purpose, and a count of at
least one, deriving `n` octets ends after exactly as many rounds as there are outputs of the digest in `n`, a begun
one included, and gives exactly `n` octets; and for every smaller length the derived octets are the first ones of
these. -/
theorem derive_one_stream {digest : Value} (known : digestOf digest = .ok H) (salt password : Bytes)
    (purpose : UInt8) {m n : Nat} (hiterations : 1 ≤ iterations) (hm : 1 ≤ m) (hmn : m ≤ n) :
    ∃ derived, derive salt password iterations purpose.toNat n digest = .ok derived
      ∧ (∀ rounds result,
        Runs H (diversifierBlock H purpose.toNat) iterations (firstInput H salt password) n rounds result
          ↔ rounds = n ⌈/⌉ H.outputSize ∧ result = derived)
      ∧ derived.length = n
      ∧ derive salt password iterations purpose.toNat m digest = .ok (derived.take m) := by
  have hn : 1 ≤ n := hm.trans hmn
  refine ⟨_, derive_of_digestOf known salt password purpose hiterations hn, fun rounds result => ?_, ?_, ?_⟩
  · exact runs_iff hiterations hn
  · exact length_deriveWith H salt password hiterations purpose.toNat n
  · rw [derive_of_digestOf known salt password purpose hiterations hm]
    exact congrArg _ (take_generate hiterations _ hmn).symm

/-- Forty-one octets take a third round of SHA-1 and no fourth, for the sake of the last octet; forty octets are all
the others. -/
theorem derive_one_stream_third_round :
    digestOf (.text "sha1") = .ok .sha1 ∧ 1 ≤ 2 ∧ 1 ≤ 40 ∧ 40 ≤ 41
      ∧ ∃ derived, derive [0xff] [0, 0x61, 0, 0] (2 : Nat) (3 : UInt8).toNat (41 : Nat) (.text "sha1") = .ok derived
        ∧ Runs .sha1 (diversifierBlock .sha1 3) 2 (firstInput .sha1 [0xff] [0, 0x61, 0, 0]) 41 3 derived
        ∧ ¬ Runs .sha1 (diversifierBlock .sha1 3) 2 (firstInput .sha1 [0xff] [0, 0x61, 0, 0]) 41 4 derived
        ∧ derived.length = 41
        ∧ derive [0xff] [0, 0x61, 0, 0] (2 : Nat) (3 : UInt8).toNat (40 : Nat) (.text "sha1")
          = .ok (derived.take 40) := by
  have known : digestOf (.text "sha1") = .ok .sha1 := rfl
  obtain ⟨derived, hderive, hruns, hlength, hprefix⟩ := derive_one_stream known [0xff] [0, 0x61, 0, 0] 3
    (by decide : 1 ≤ 2) (by decide : 1 ≤ 40) (by decide : 40 ≤ 41)
  -- two outputs of twenty octets leave the last one to a third
  have hthree : 41 ⌈/⌉ Digest.sha1.outputSize = 3 := rfl
  refine ⟨known, by decide, by decide, by decide, derived, hderive, ?_, ?_, hlength, hprefix⟩
  · exact (hruns 3 derived).mpr ⟨hthree.symm, rfl⟩
  · intro h
    exact absurd ((hruns 4 derived).mp h).1 (by rw [hthree]; decide)

end Shroud.Derivation
