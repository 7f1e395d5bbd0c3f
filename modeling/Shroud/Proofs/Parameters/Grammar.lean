import Shroud.Proofs.Ber.Values
import Shroud.Proofs.Parameters

/-!
# What decodes as parameters

Parameters are a sequence of an octet string and an integer. `Parameters.Encoded` says this of octets without a
reader, and leaves room for further fields behind the two. What decodes is exactly that, with a count that is
positive and within the ceiling (`Parameters.decode_eq_ok_iff_encoded`): nothing may stand behind the sequence, but
anything may stand in it behind the count.

Where the sequence ends does not depend on what follows, so no encoding starts another one
(`Parameters.decode_append_of_decode_eq_ok`).

All other octets are refused as unusable parameters, with one exception. The message about a count that is refused
holds the count and the ceiling, and where one of these has too many digits to be written, the failure is not one
about parameters any more (`Parameters.decode_outcome`).
-/

namespace Shroud

open Ber

namespace Parameters

variable {p : Parameters} {more : List Element} {raw : Bytes} {limit : Option Int}

/-- **Octets that encode parameters**, with the fields `more` behind the two that are known. The octets are one
element: nothing stands behind it. -/
inductive Encoded (p : Parameters) (more : List Element) : Bytes → Prop where
  | mk {whole salt count : Element} (hwhole : whole.WellFormed)
      (hfields : whole.IsSequence (salt :: count :: more)) (hsalt : salt.IsOctetString p.salt)
      (hcount : count.IsInteger p.iterations) : Encoded p more whole.octets

/-- Parameters are made of two children, whatever comes behind them. -/
theorem ofFields?_eq_some_iff {fields : List Element} :
    ofFields? fields = some p ↔ ∃ salt count more,
      fields = salt :: count :: more ∧ salt.IsOctetString p.salt ∧ count.IsInteger p.iterations := by
  constructor
  · intro h
    unfold ofFields? at h
    split at h
    · next salt count more =>
      split at h
      -- both children are read before either is used
      · next hsalt hcount =>
        obtain rfl := Option.some.inj h
        exact ⟨salt, count, more, rfl, Element.octetString?_eq_some_iff.mp hsalt,
          Element.integer?_eq_some_iff.mp hcount⟩
      · exact absurd h (by simp)
    · exact absurd h (by simp)
  · rintro ⟨salt, count, more, rfl, hsalt, hcount⟩
    simp only [ofFields?, Element.octetString?_eq_some_iff.mpr hsalt, Element.integer?_eq_some_iff.mpr hcount]

/-- **What is read is what is encoded.** -/
theorem read?_eq_some_iff : read? raw = some p ↔ ∃ more, p.Encoded more raw := by
  constructor
  · intro h
    unfold read? at h
    split at h
    · next whole hread =>
      obtain ⟨hwhole, rfl⟩ := Element.read_eq_some_iff.mp hread
      obtain ⟨fields, hfields, hp⟩ := Option.bind_eq_some_iff.mp h
      obtain ⟨salt, count, more, rfl, hsalt, hcount⟩ := ofFields?_eq_some_iff.mp hp
      -- nothing may follow the sequence
      rw [List.append_nil]
      exact ⟨more, .mk hwhole (Element.sequence?_eq_some_iff.mp hfields) hsalt hcount⟩
    · exact absurd h (by simp)
  · rintro ⟨more, hencoded⟩
    cases hencoded with
    | @mk whole salt count hwhole hfields hsalt hcount =>
      rw [read?, hwhole.read_octets]
      exact Option.bind_eq_some_iff.mpr ⟨_, Element.sequence?_eq_some_iff.mpr hfields,
        ofFields?_eq_some_iff.mpr ⟨salt, count, more, rfl, hsalt, hcount⟩⟩

/-- An encoding is not empty. -/
theorem Encoded.ne_nil (h : p.Encoded more raw) : raw ≠ [] := by
  cases h with
  | mk hwhole _ _ _ => exact hwhole.octets_ne_nil

/-- The fields of encoded parameters are the ones that a reader finds. -/
theorem Encoded.exists_fields (h : p.Encoded more raw) :
    ∃ whole salt count, Element.read raw = some (whole, []) ∧ whole.sequence? = some (salt :: count :: more) := by
  cases h with
  | @mk whole salt count hwhole hfields _ _ =>
    exact ⟨whole, salt, count, hwhole.read_octets, Element.sequence?_eq_some_iff.mpr hfields⟩

/-- **What decodes.** Octets decode to parameters exactly if they encode them, with a count that is positive and
within the ceiling, if there is one. What further fields stand behind the count makes no difference. -/
theorem decode_eq_ok_iff_encoded :
    decode raw limit = .ok p
      ↔ (∃ more, p.Encoded more raw) ∧ 1 ≤ p.iterations ∧ ∀ m ∈ limit, p.iterations ≤ m := by
  rw [decode_eq_ok_iff, read?_eq_some_iff]
  constructor
  · rintro ⟨-, hencoded, hcount⟩
    exact ⟨hencoded, hcount⟩
  · rintro ⟨⟨more, hencoded⟩, hcount⟩
    exact ⟨hencoded.ne_nil, ⟨more, hencoded⟩, hcount⟩

/-- Behind a salt of one octet and a count of one stands a null element. The octets decode all the same, and encode
nothing without further fields. -/
theorem decode_null_behind_count :
    decode [0x30, 0x08, 0x04, 0x01, 0xff, 0x02, 0x01, 0x01, 0x05, 0x00] = .ok ⟨[0xff], 1⟩
      ∧ ¬ ∃ p : Parameters, p.Encoded [] [0x30, 0x08, 0x04, 0x01, 0xff, 0x02, 0x01, 0x01, 0x05, 0x00] := by
  refine ⟨rfl, ?_⟩
  rintro ⟨p, hencoded⟩
  -- a reader finds three fields, and by the grammar it would find two
  obtain ⟨whole, salt, count, hread, hfields⟩ := hencoded.exists_fields
  have hthree : ((Element.read [0x30, 0x08, 0x04, 0x01, 0xff, 0x02, 0x01, 0x01, 0x05, 0x00]).bind
      fun found => found.1.sequence?).map List.length = some 3 := rfl
  rw [hread, Option.bind_some, hfields] at hthree
  exact absurd hthree (by simp)

/-! ### What stands behind parameters -/

/-- What is not read is missing or malformed. -/
theorem decode_eq_error_of_read?_eq_none (h : read? raw = none) (limit : Option Int) :
    decode raw limit = .error (.parameters (if raw = [] then .missing else .malformed)) := by
  unfold decode
  by_cases hraw : raw = []
  · rw [if_pos hraw, if_pos hraw]
  · rw [if_neg hraw, if_neg hraw, h]

/-- The element that was read ends where it ended before, so what stands behind it is left over. -/
theorem read?_append_eq_none (h : read? raw = some p) {behind : Bytes} (hbehind : behind ≠ []) :
    read? (raw ++ behind) = none := by
  obtain ⟨more, hencoded⟩ := read?_eq_some_iff.mp h
  cases hencoded with
  | mk hwhole _ _ _ =>
    rw [read?, hwhole.read_octets_append]
    cases behind with
    | nil => exact absurd rfl hbehind
    | cons b bs => rfl

/-- A part of an encoding is none. -/
theorem read?_eq_none_of_append {front behind : Bytes} (h : read? (front ++ behind) = some p)
    (hbehind : behind ≠ []) : read? front = none := by
  cases hfront : read? front with
  | none => rfl
  | some q =>
    rw [read?_append_eq_none hfront hbehind] at h
    exact absurd h (by simp)

/-- **No encoding of parameters starts another one.** What decodes under some ceiling is malformed under every ceiling
as soon as anything stands behind it, and so is each shorter front of it, except that the empty one is missing
altogether. -/
theorem decode_append_of_decode_eq_ok (h : decode raw limit = .ok p) :
    (∀ behind : Bytes, behind ≠ [] → ∀ limit',
        decode (raw ++ behind) limit' = .error (.parameters .malformed))
      ∧ ∀ front behind : Bytes, raw = front ++ behind → behind ≠ [] → ∀ limit',
        decode front limit' = .error (.parameters (if front = [] then .missing else .malformed)) := by
  obtain ⟨hraw, hread, -⟩ := decode_eq_ok_iff.mp h
  constructor
  · intro behind hbehind limit'
    have hnone := read?_append_eq_none hread hbehind
    have hne : raw ++ behind ≠ [] := List.append_ne_nil_of_left_ne_nil hraw behind
    rw [decode_eq_error_of_read?_eq_none hnone, if_neg hne]
  · rintro front behind rfl hbehind limit'
    exact decode_eq_error_of_read?_eq_none (read?_eq_none_of_append hread hbehind) limit'

/-- The sequence and the salt in it have no length, and two zeros end each of them. Two more zeros, or one more
integer, are too much, and without its last zero the sequence does not end. -/
theorem decode_append_of_decode_eq_ok_indefinite :
    let raw : Bytes :=
      [0x30, 0x80, 0x24, 0x80, 0x04, 0x01, 0xff, 0x00, 0x00, 0x02, 0x01, 0x07, 0x00, 0x00]
    decode raw (some 7) = .ok ⟨[0xff], 7⟩
      ∧ decode (raw ++ [0x00, 0x00]) = .error (.parameters .malformed)
      ∧ decode (raw ++ [0x02, 0x01, 0x07]) (some 9) = .error (.parameters .malformed)
      ∧ decode (raw.take 13) (some 7) = .error (.parameters .malformed)
      ∧ decode (raw.take 0) = .error (.parameters .missing) := by
  intro raw
  have hdecode : decode raw (some 7) = .ok ⟨[0xff], 7⟩ := rfl
  obtain ⟨hlonger, hshorter⟩ := decode_append_of_decode_eq_ok hdecode
  refine ⟨hdecode, ?_, ?_, ?_, ?_⟩
  · exact hlonger [0x00, 0x00] (by decide) none
  · exact hlonger [0x02, 0x01, 0x07] (by decide) (some 9)
  · exact hshorter (raw.take 13) [0x00] rfl (by decide) (some 7)
  · exact hshorter [] raw rfl (by decide) none

/-! ### What is refused -/

/-- **A refusal that cannot be worded**: the count is not positive or above the ceiling, and the message about it
would hold an integer of too many digits. -/
inductive Unreportable (p : Parameters) (limit : Option Int) : Prop where
  | notPositive (hcount : p.iterations < 1) (hdigits : Decimal.bound ≤ p.iterations.natAbs)
  | overLimit {m : Int} (hlimit : m ∈ limit) (hpos : 1 ≤ p.iterations) (hover : m < p.iterations)
      (hdigits : Decimal.bound ≤ p.iterations.natAbs ∨ Decimal.bound ≤ m.natAbs)

/-- A failure cannot be named if a number in it has too many digits. -/
theorem checked_parameters_eq_oversized_iff {fault : ParameterFault} :
    (Failure.parameters fault).checked = .misuse .oversizedInteger
      ↔ ∃ n ∈ fault.integers, Decimal.bound ≤ n.natAbs := by
  have hall : (Failure.parameters fault).integers.all Decimal.inBounds = true
      ↔ ∀ n ∈ fault.integers, n.natAbs < Decimal.bound := by
    simp [Failure.integers, Decimal.inBounds]
  unfold Failure.checked
  split
  · next hfits =>
    refine iff_of_false (by simp) ?_
    rintro ⟨n, hn, hdigits⟩
    exact absurd (hall.mp hfits n hn) (Nat.not_lt.mpr hdigits)
  · next hlong =>
    refine iff_of_true rfl ?_
    rw [hall] at hlong
    simpa using hlong

/-- **The check ends without a name if the count, or the ceiling that it passes, has too many digits.** -/
theorem check_eq_oversized_iff :
    p.check limit = .error (.misuse .oversizedInteger) ↔ p.Unreportable limit := by
  constructor
  · intro h
    rcases p.check_cases limit with hok | ⟨fault, hrefused, hcheck⟩
    · exact absurd (hok.symm.trans h) (by simp)
    · have hchecked := Except.error.inj (hcheck.symm.trans h)
      obtain ⟨n, hn, hdigits⟩ := checked_parameters_eq_oversized_iff.mp hchecked
      -- a count below one names itself, and one above the ceiling names both
      cases hrefused with
      | notPositive hcount =>
        obtain rfl := List.mem_singleton.mp hn
        exact .notPositive hcount hdigits
      | overLimit hlimit hpos hover =>
        refine .overLimit hlimit hpos hover ?_
        rcases List.mem_pair.mp hn with rfl | rfl
        · exact .inl hdigits
        · exact .inr hdigits
  · intro h
    cases h with
    | notPositive hcount hdigits =>
      have hchecked : (Failure.parameters (.notPositive p.iterations)).checked = .misuse .oversizedInteger :=
        checked_parameters_eq_oversized_iff.mpr ⟨_, List.mem_singleton_self _, hdigits⟩
      rw [check_of_lt_one hcount, hchecked]
    | @overLimit m hlimit hpos hover hdigits =>
      obtain rfl := Option.mem_def.mp hlimit
      have hchecked : (Failure.parameters (.overLimit p.iterations m)).checked = .misuse .oversizedInteger := by
        refine checked_parameters_eq_oversized_iff.mpr ?_
        rcases hdigits with hdigits | hdigits
        · exact ⟨_, List.mem_cons_self, hdigits⟩
        · exact ⟨_, List.mem_cons_of_mem _ (List.mem_singleton_self _), hdigits⟩
      rw [check_of_lt hpos hover, hchecked]

/-- Integers that can be written never keep a refusal from being worded. -/
theorem not_unreportable (hcount : p.iterations.natAbs < Decimal.bound)
    (hlimit : ∀ m ∈ limit, m.natAbs < Decimal.bound) : ¬ p.Unreportable limit := by
  intro h
  cases h with
  | notPositive _ hdigits => omega
  | @overLimit m hmem _ _ hdigits =>
    have hm := hlimit m hmem
    omega

theorem decode_of_read?_eq_none (h : read? raw = none) :
    ∃ fault, decode raw limit = .error (.parameters fault) :=
  ⟨_, decode_eq_error_of_read?_eq_none h limit⟩

/-- What is read is all that the check decides about. -/
theorem decode_of_read?_eq_some (h : read? raw = some p) : decode raw limit = p.check limit := by
  obtain ⟨more, hencoded⟩ := read?_eq_some_iff.mp h
  rw [decode, if_neg hencoded.ne_nil, h]

/-- Where no count is too long to tell, decoding ends with parameters or with a failure about them. -/
theorem decode_cases {raw : Bytes} {limit : Option Int}
    (hreportable : ∀ p : Parameters, (∃ more, p.Encoded more raw) → ¬ p.Unreportable limit) :
    (∃ p, decode raw limit = .ok p) ∨ ∃ fault, decode raw limit = .error (.parameters fault) := by
  cases hread : read? raw with
  | none => exact .inr (decode_of_read?_eq_none hread)
  | some p =>
    rw [decode_of_read?_eq_some hread]
    rcases p.check_cases limit with hok | ⟨fault, -, hcheck⟩
    · exact .inl ⟨p, hok⟩
    · -- a failure keeps its name unless the numbers in it are too long
      rcases (Failure.parameters fault).checked_cases with hchecked | hchecked
      · exact .inr ⟨fault, hcheck.trans (congrArg _ hchecked)⟩
      · have hlong := check_eq_oversized_iff.mp (hcheck.trans (congrArg _ hchecked))
        exact absurd hlong (hreportable p (read?_eq_some_iff.mp hread))

/-- **How decoding ends**, for any octets and any ceiling: with parameters whose count is positive and within the
ceiling, with a failure about parameters, or with an integer that has too many digits. The last is the case exactly
if the octets encode a count whose refusal cannot be worded. -/
theorem decode_outcome (raw : Bytes) (limit : Option Int) :
    ((∃ p, decode raw limit = .ok p ∧ 1 ≤ p.iterations ∧ ∀ m ∈ limit, p.iterations ≤ m)
      ∨ (∃ fault, decode raw limit = .error (.parameters fault))
      ∨ decode raw limit = .error (.misuse .oversizedInteger))
    ∧ (decode raw limit = .error (.misuse .oversizedInteger)
      ↔ ∃ p : Parameters, (∃ more, p.Encoded more raw) ∧ p.Unreportable limit) := by
  cases hread : read? raw with
  | none =>
    -- no parameters, hence no count that could be too long to tell
    obtain ⟨fault, hdecode⟩ := decode_of_read?_eq_none hread
    refine ⟨.inr (.inl ⟨fault, hdecode⟩), iff_of_false (by simp [hdecode]) ?_⟩
    rintro ⟨p, hencoded, -⟩
    exact absurd (hread.symm.trans (read?_eq_some_iff.mpr hencoded)) (by simp)
  | some p =>
    -- these are the only parameters that the octets encode, and their check decides
    rw [decode_of_read?_eq_some hread, check_eq_oversized_iff]
    constructor
    · rcases p.check_cases limit with hok | ⟨fault, -, hcheck⟩
      · exact .inl ⟨p, hok, (check_eq_ok_iff.mp hok).2⟩
      · rcases (Failure.parameters fault).checked_cases with hchecked | hchecked
        · exact .inr (.inl ⟨fault, hcheck.trans (congrArg _ hchecked)⟩)
        · exact .inr (.inr (check_eq_oversized_iff.mp (hcheck.trans (congrArg _ hchecked))))
    · constructor
      · intro h
        exact ⟨p, read?_eq_some_iff.mp hread, h⟩
      · rintro ⟨q, hencoded, h⟩
        obtain rfl := Option.some.inj (hread.symm.trans (read?_eq_some_iff.mpr hencoded))
        exact h

/-- A count of minus ten to the power of 4300 is refused, but not as unusable parameters. -/
theorem decode_negative_of_many_digits :
    decode (encode ⟨[0xff], -(Decimal.bound : Int)⟩) = .error (.misuse .oversizedInteger)
      ∧ (Failure.misuse .oversizedInteger).kind ≠ .parameters := by
  have hdigits : (-(Decimal.bound : Int)).natAbs = Decimal.bound := by
    rw [Int.natAbs_neg, Int.natAbs_natCast]
  -- an octet holds more than a decimal digit
  have hpow : ∀ k, Nat.pow 10 k ≤ 256 ^ k := Nat.pow_le_pow_left (by decide)
  have hwidth : Decimal.bound ≤ 256 ^ Decimal.digitLimit := by
    unfold Decimal.bound
    exact hpow _
  have hfits : Fits ⟨[0xff], -(Decimal.bound : Int)⟩ := by
    refine fits_of_length_lt (by decide) ?_
    exact lt_of_le_of_lt (Element.length_integerContents_le (hdigits.trans_le hwidth)) (by decide)
  have hnegative : -(Decimal.bound : Int) < 1 := by omega
  refine ⟨?_, by decide⟩
  rw [decode_encode hfits]
  exact check_eq_oversized_iff.mpr (.notPositive hnegative hdigits.ge)

end Parameters

end Shroud
