import Mathlib.Algebra.Order.BigOperators.Group.List
import Shroud.Parameters
import Shroud.Proofs.Ber.Der

/-!
# Encoded parameters are read back

`Parameters.decode_encode` says that decoding what `Parameters.encode` wrote leaves nothing but the check of
the count: the salt comes back octet by octet and the count as the same integer, of any size. The check is
the only place where a ceiling matters (`Parameters.check_of_le`, `Parameters.check_of_lt`).

What decodes at all is what `Parameters.read?` reads, with a count that passes the check
(`Parameters.decode_eq_ok_iff`).

The one condition for coming back is `Parameters.Fits`: what is written must have a length that distinguished
encodings can express, which is every length below `256 ^ 127`.
-/

namespace Shroud

open Ber

/-- **Parameters that have an encoding.** A string of `256 ^ 127` octets has no length in the encoding rules;
shorter ones all have. -/
def Parameters.Fits (p : Parameters) : Prop :=
  p.encode.length < Der.lengthBound

instance (p : Parameters) : Decidable p.Fits :=
  inferInstanceAs (Decidable (p.encode.length < Der.lengthBound))

namespace Ber.Element

@[simp] theorem sequence?_ofContents (contents : Bytes) :
    (ofContents 0x30 contents).sequence? = readAll contents := rfl

@[simp] theorem octetString?_ofContents (contents : Bytes) :
    (ofContents 0x04 contents).octetString? = some contents := rfl

@[simp] theorem integer?_ofContents (contents : Bytes) :
    (ofContents 0x02 contents).integer? = some (signedNumber contents) := rfl

end Ber.Element

/-- A failure is reported as it is, or as an integer that has too many digits for its message. -/
theorem Failure.checked_cases (failure : Failure) :
    failure.checked = failure ∨ failure.checked = .misuse .oversizedInteger := by
  unfold checked
  split
  · exact .inl rfl
  · exact .inr rfl

namespace Parameters

/-- The identifier octets and contents of the two elements that parameters are written as. -/
def items (p : Parameters) : List (UInt8 × Bytes) :=
  [(0x04, p.salt), (0x02, Der.integerContents p.iterations)]

/-- Parameters are one element around their two items. -/
theorem encode_eq_element (p : Parameters) :
    p.encode = Der.element 0x30 (p.items.flatMap fun item => Der.element item.1 item.2) := by
  simp [encode, items, Der.sequence, Der.octetString, Der.integer]

theorem encode_ne_nil (p : Parameters) : p.encode ≠ [] := by
  rw [encode_eq_element, Der.element]
  exact List.cons_ne_nil _ _

/-- Only parts that come close to the bound themselves have no encoding together. -/
theorem fits_of_length_lt {p : Parameters} (hsalt : p.salt.length < 256 ^ 126)
    (hcount : (Der.integerContents p.iterations).length < 256 ^ 126) : p.Fits := by
  have hbound : Der.lengthBound = 256 * 256 ^ 126 := by rw [Der.lengthBound, pow_succ']
  have hlarge : 256 ≤ 256 ^ 126 := by decide
  -- each of the three headers has at most one octet more than 128
  have hheader : ∀ n, n < 4 * 256 ^ 126 → (Der.lengthOctets n).length ≤ 128 :=
    fun n hn => length_lengthOctets_le (by omega)
  have hsaltHeader := hheader p.salt.length (by omega)
  have hcountHeader := hheader (Der.integerContents p.iterations).length (by omega)
  have hcontents : (p.items.flatMap fun item => Der.element item.1 item.2).length
      = (1 + (Der.lengthOctets p.salt.length).length + p.salt.length)
        + (1 + (Der.lengthOctets (Der.integerContents p.iterations).length).length
          + (Der.integerContents p.iterations).length) := by
    simp [items, Element.length_element]
  have hwholeHeader := hheader (p.items.flatMap fun item => Der.element item.1 item.2).length (by omega)
  rw [Fits, encode_eq_element, Element.length_element]
  omega

/-- What fits has contents below the bound of lengths. -/
theorem Fits.contents_lt {p : Parameters} (h : p.Fits) :
    (p.items.flatMap fun item => Der.element item.1 item.2).length < Der.lengthBound := by
  rw [Fits, encode_eq_element] at h
  exact lt_trans (Element.length_lt_length_element 0x30 _) h

theorem Fits.items_lt {p : Parameters} (h : p.Fits) :
    ∀ item ∈ p.items, item.2.length < Der.lengthBound := by
  intro item hmem
  -- contents are shorter than their element, which is a part of the contents of the whole
  have hcontents := Element.length_lt_length_element item.1 item.2
  have hitem : (Der.element item.1 item.2).length
      ≤ (p.items.flatMap fun item => Der.element item.1 item.2).length := by
    rw [List.length_flatMap]
    exact List.single_le_sum (fun _ _ => Nat.zero_le _) _ (List.mem_map_of_mem hmem)
  have hwhole := h.contents_lt
  omega

/-- **What was written is read**: the same salt, and the same count. -/
theorem read?_encode {p : Parameters} (h : p.Fits) : read? p.encode = some p := by
  -- the sequence is read, then the elements in it, then what they stand for
  have hread := Element.read_element (by decide : (0x30 : UInt8).toNat % 32 < 31) h.contents_lt []
  have hitems : Element.readAll (p.items.flatMap fun item => Der.element item.1 item.2)
      = some (p.items.map fun item => Element.ofContents item.1 item.2) := by
    refine Element.readAll_elements ?_ h.items_lt
    intro item hmem
    rcases List.mem_pair.mp hmem with rfl | rfl <;> exact of_decide_eq_true rfl
  rw [List.append_nil, ← encode_eq_element] at hread
  rw [read?, hread]
  simp only [ofElement?, Element.sequence?_ofContents, hitems]
  simp [items, ofFields?, Element.signedNumber_integerContents]

/-- **Decoding what was encoded** leaves the check of the count. -/
theorem decode_encode {p : Parameters} (h : p.Fits) (limit : Option Int) :
    decode p.encode limit = p.check limit := by
  rw [decode, if_neg p.encode_ne_nil, read?_encode h]

/-- **Parameters pass the check** unchanged, if their count is positive and within the ceiling, if there is
one. -/
theorem check_eq_ok_iff {p q : Parameters} {limit : Option Int} :
    p.check limit = .ok q ↔ p = q ∧ 1 ≤ p.iterations ∧ ∀ m ∈ limit, p.iterations ≤ m := by
  unfold check
  by_cases hpos : p.iterations < 1
  · simp only [if_pos hpos, reduceCtorEq, false_iff]
    omega
  · rw [if_neg hpos]
    have hpos : 1 ≤ p.iterations := not_lt.mp hpos
    cases limit with
    | none => simp [hpos]
    | some m =>
      -- the ceiling itself is allowed
      by_cases hlt : m < p.iterations
      · simp [hlt]
      · simp [hlt, hpos, not_lt.mp hlt]

/-- **What was encoded decodes to itself**, if its count is positive and within the ceiling, if there is one, and to
nothing otherwise. The salt may have any length, and the count any size and sign. -/
theorem decode_encode_eq_ok_iff {p : Parameters} (hfits : p.Fits) (limit : Option Int) (q : Parameters) :
    decode p.encode limit = .ok q ↔ q = p ∧ 1 ≤ p.iterations ∧ ∀ m ∈ limit, p.iterations ≤ m := by
  rw [decode_encode hfits, check_eq_ok_iff, eq_comm]

/-- A salt whose length takes the octet that marks an indefinite one, and a count that needs an octet for its sign,
come back under a ceiling that is the count, but not under the next lower one. Nor does a negative count without a
ceiling. -/
theorem decode_encode_eq_ok_iff_long_salt :
    let p : Parameters := ⟨List.replicate 128 0xab, 32768⟩
    let q : Parameters := ⟨[], -128⟩
    p.Fits ∧ q.Fits ∧ decode p.encode (some 32768) = .ok p
      ∧ (∀ r, decode p.encode (some 32767) ≠ .ok r) ∧ ∀ r, decode q.encode ≠ .ok r := by
  intro p q
  have hp : p.Fits := fits_of_length_lt (by simp [p]) (by decide)
  have hq : q.Fits := fits_of_length_lt (by decide) (by decide)
  refine ⟨hp, hq, ?_, ?_, ?_⟩
  -- a ceiling that is met, one that is passed, and a count of zero
  · exact (decode_encode_eq_ok_iff hp (some 32768) p).mpr ⟨rfl, by decide, by decide⟩
  · intro r h
    obtain ⟨-, -, hle⟩ := (decode_encode_eq_ok_iff hp (some 32767) r).mp h
    exact absurd (hle 32767 rfl) (by decide)
  · intro r h
    obtain ⟨-, hpos, -⟩ := (decode_encode_eq_ok_iff hq none r).mp h
    exact absurd hpos (by decide)

/-- **What is decoded** is what the octets encode, if it passes the check. -/
theorem decode_eq_ok_iff {raw : Bytes} {limit : Option Int} {p : Parameters} :
    decode raw limit = .ok p
      ↔ raw ≠ [] ∧ read? raw = some p ∧ 1 ≤ p.iterations ∧ ∀ m ∈ limit, p.iterations ≤ m := by
  unfold decode
  by_cases hraw : raw = []
  · simp [hraw]
  · -- nothing is looked at before the octets are there, and nothing after the count
    rw [if_neg hraw]
    cases read? raw with
    | none => simp
    | some q =>
      constructor
      · intro h
        obtain ⟨rfl, hcount⟩ := check_eq_ok_iff.mp h
        exact ⟨hraw, rfl, hcount⟩
      · rintro ⟨-, hq, hcount⟩
        obtain rfl := Option.some.inj hq
        exact check_eq_ok_iff.mpr ⟨rfl, hcount⟩

/-- What is decoded has a count that is positive and within the ceiling. -/
theorem iterations_of_decode_eq_ok {raw : Bytes} {limit : Int} {p : Parameters}
    (h : decode raw (some limit) = .ok p) : 1 ≤ p.iterations ∧ p.iterations ≤ limit := by
  obtain ⟨-, -, hpos, hle⟩ := decode_eq_ok_iff.mp h
  exact ⟨hpos, hle limit rfl⟩

theorem check_of_le {p : Parameters} {limit : Int} (hpos : 1 ≤ p.iterations) (hle : p.iterations ≤ limit) :
    p.check (some limit) = .ok p :=
  check_eq_ok_iff.mpr ⟨rfl, hpos, by simpa using hle⟩

theorem check_of_lt {p : Parameters} {limit : Int} (hpos : 1 ≤ p.iterations) (hlt : limit < p.iterations) :
    p.check (some limit) = .error (Failure.parameters (.overLimit p.iterations limit)).checked := by
  simp only [check]
  rw [if_neg (by omega), if_pos hlt]

theorem check_of_lt_one {p : Parameters} (hcount : p.iterations < 1) (limit : Option Int) :
    p.check limit = .error (Failure.parameters (.notPositive p.iterations)).checked :=
  if_pos hcount

/-- **Why parameters are refused**: the count is not positive, or it is above the ceiling. -/
inductive Refused (p : Parameters) (limit : Option Int) : ParameterFault → Prop where
  | notPositive (hcount : p.iterations < 1) : Refused p limit (.notPositive p.iterations)
  | overLimit {m : Int} (hlimit : m ∈ limit) (hpos : 1 ≤ p.iterations) (hover : m < p.iterations) :
      Refused p limit (.overLimit p.iterations m)

/-- **The check passes the parameters on, or tells what is wrong with the count.** -/
theorem check_cases (p : Parameters) (limit : Option Int) :
    p.check limit = .ok p
      ∨ ∃ fault, p.Refused limit fault ∧ p.check limit = .error (Failure.parameters fault).checked := by
  by_cases hcount : p.iterations < 1
  · exact .inr ⟨_, .notPositive hcount, check_of_lt_one hcount limit⟩
  · have hpos := not_lt.mp hcount
    cases limit with
    | none => exact .inl (check_eq_ok_iff.mpr ⟨rfl, hpos, by simp⟩)
    | some m =>
      rcases lt_or_ge m p.iterations with hover | hle
      · exact .inr ⟨_, .overLimit rfl hpos hover, check_of_lt hpos hover⟩
      · exact .inl (check_of_le hpos hle)

/-- What does not pass the check is reported as unusable parameters, or as a wrong value where the message would
hold a count that has too many digits. -/
theorem kind_of_check_eq_error {p : Parameters} {limit : Option Int} {failure : Failure}
    (h : p.check limit = .error failure) : failure.kind ∈ [FaultKind.parameters, .value] := by
  rcases p.check_cases limit with hok | ⟨fault, -, hrefused⟩
  · exact absurd (hok.symm.trans h) (by simp)
  · obtain rfl := Except.error.inj (hrefused.symm.trans h)
    rcases (Failure.parameters fault).checked_cases with hchecked | hchecked
    · rw [hchecked]
      exact List.mem_cons_self
    · rw [hchecked]
      exact List.mem_cons_of_mem _ List.mem_cons_self

/-- What cannot be decoded fails as parameters, or as a number that cannot be named. -/
theorem kind_of_decode_eq_error {raw : Bytes} {limit : Option Int} {failure : Failure}
    (h : decode raw limit = .error failure) : failure.kind ∈ [FaultKind.parameters, .value] := by
  unfold decode at h
  split at h
  · obtain rfl := Except.error.inj h
    exact List.mem_cons_self
  · split at h
    · exact kind_of_check_eq_error h
    · obtain rfl := Except.error.inj h
      exact List.mem_cons_self

end Parameters

end Shroud
