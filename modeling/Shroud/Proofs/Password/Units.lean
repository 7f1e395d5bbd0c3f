import Shroud.Password
import Shroud.Proofs.Bytes

/-!
# Texts and their password forms

A text has a password form if each of its code points is one sixteen-bit unit and none is half of a surrogate pair
(`Password.InUnits`). It is found by cutting the octets into pairs, of which each stands for the number of its unit
(`Password.unitsOf_flatMap_unitOctets`), so that `Password.decode` takes the terminator off and gives the text back.

All other texts are refused (`Password.Refused`). What is refused is told by two passes over the text, of which the
first looks at nothing but the plane: a code point outside of it counts before every surrogate, wherever the two stand.
`Password.encode_outcome` puts this together for every row of code points.
-/

namespace Shroud.Password

/-- **A text in sixteen-bit units**: no code point lies outside the plane, and none is a surrogate. -/
def InUnits (codes : List Nat) : Prop :=
  ∀ code ∈ codes, code ≤ 0xffff ∧ isSurrogate code = false

instance (codes : List Nat) : Decidable (InUnits codes) :=
  inferInstanceAs (Decidable (∀ code ∈ codes, code ≤ 0xffff ∧ isSurrogate code = false))

/-- **Why a text has no password form**, by the kind under which it is reported. -/
inductive Refused (codes : List Nat) : FaultKind → Prop where
  | outsidePlane (h : ∃ code ∈ codes, 0xffff < code) : Refused codes .derivation
  | surrogate (hplane : ∀ code ∈ codes, code ≤ 0xffff) (h : ∃ code ∈ codes, isSurrogate code = true) :
      Refused codes .encode

/-- The numbers of the sixteen-bit units in a string of octets. -/
def unitsOf (octets : Bytes) : List Nat :=
  (octets.pieces 2).map Bytes.toNat

/-- **The text of a password form**: its units without the two octets at the end. -/
def decode (octets : Bytes) : List Nat :=
  unitsOf (octets.take (octets.length - 2))

variable {codes : List Nat}

/-! ### Units -/

@[simp] theorem length_flatMap_unitOctets (codes : List Nat) :
    (codes.flatMap unitOctets).length = 2 * codes.length := by
  induction codes with
  | nil => rfl
  | cons code codes ih =>
    rw [List.flatMap_cons, List.length_append, ih, List.length_cons, unitOctets]
    simp only [List.length_cons, List.length_nil]
    omega

/-- The octets of a unit are its digits. -/
theorem toNat_unitOctets {code : Nat} (h : code ≤ 0xffff) : Bytes.toNat (unitOctets code) = code := by
  have hhigh : (UInt8.ofNat (code / 256)).toNat = code / 256 := by
    rw [UInt8.toNat_ofNat', Nat.mod_eq_of_lt (by omega)]
  have hlow : (UInt8.ofNat (code % 256)).toNat = code % 256 := by
    rw [UInt8.toNat_ofNat', Nat.mod_eq_of_lt (by omega)]
  change (0 * 256 + (UInt8.ofNat (code / 256)).toNat) * 256 + (UInt8.ofNat (code % 256)).toNat = code
  rw [hhigh, hlow]
  omega

/-- **Units are read back**, two octets at a time. -/
theorem unitsOf_flatMap_unitOctets (h : ∀ code ∈ codes, code ≤ 0xffff) :
    unitsOf (codes.flatMap unitOctets) = codes := by
  induction codes with
  | nil => rw [List.flatMap_nil, unitsOf, Bytes.pieces_nil, List.map_nil]
  | cons code codes ih =>
    obtain ⟨hcode, hcodes⟩ := List.forall_mem_cons.mp h
    have hsome : unitOctets code ++ codes.flatMap unitOctets ≠ [] := List.cons_ne_nil _ _
    -- the first two octets are those of the first unit
    have htake : (unitOctets code ++ codes.flatMap unitOctets).take 2 = unitOctets code := List.take_left' rfl
    have hdrop : (unitOctets code ++ codes.flatMap unitOctets).drop 2 = codes.flatMap unitOctets := List.drop_left' rfl
    rw [List.flatMap_cons, unitsOf, Bytes.pieces_of_ne_nil (by decide) hsome, htake, hdrop, List.map_cons,
      toNat_unitOctets hcode]
    exact congrArg _ (ih hcodes)

/-- What stands in front of the terminator is the text. -/
theorem decode_append_terminator (h : ∀ code ∈ codes, code ≤ 0xffff) :
    decode (codes.flatMap unitOctets ++ [0, 0]) = codes := by
  have hfront : (codes.flatMap unitOctets ++ [0, 0]).length - 2 = (codes.flatMap unitOctets).length := by
    rw [List.length_append]
    rfl
  rw [decode, hfront, List.take_left, unitsOf_flatMap_unitOctets h]

/-! ### The three outcomes -/

/-- Code points above the plane are refused, whatever else the text has. -/
theorem encode_of_outsidePlane (h : ∃ code ∈ codes, 0xffff < code) :
    encode codes = .error (.derivation .outsidePlane) := by
  have hany : codes.any (0xffff < ·) = true := by simpa using h
  rw [encode, if_pos hany]

theorem not_any_outsidePlane (h : ∀ code ∈ codes, code ≤ 0xffff) : ¬ codes.any (0xffff < ·) = true := by
  simpa using h

/-- Surrogates are refused where nothing lies above the plane. -/
theorem encode_of_surrogate (hplane : ∀ code ∈ codes, code ≤ 0xffff) (h : ∃ code ∈ codes, isSurrogate code = true) :
    encode codes = .error (.misuse .surrogate) := by
  have hany : codes.any isSurrogate = true := List.any_eq_true.mpr h
  rw [encode, if_neg (not_any_outsidePlane hplane), if_pos hany]

theorem encode_of_inUnits (h : InUnits codes) : encode codes = .ok (codes.flatMap unitOctets ++ [0, 0]) := by
  have hnone : ¬ codes.any isSurrogate = true := by
    rw [List.any_eq_true]
    rintro ⟨code, hcode, hsurrogate⟩
    exact Bool.eq_false_iff.mp (h code hcode).2 hsurrogate
  rw [encode, if_neg (not_any_outsidePlane fun code hcode => (h code hcode).1), if_neg hnone]

/-- A text consists of units, or has a code point that is refused. -/
theorem inUnits_or_refused (codes : List Nat) : InUnits codes ∨ ∃ kind, Refused codes kind := by
  by_cases hplane : ∀ code ∈ codes, code ≤ 0xffff
  · by_cases hsurrogate : ∃ code ∈ codes, isSurrogate code = true
    · exact .inr ⟨_, .surrogate hplane hsurrogate⟩
    · refine .inl fun code hcode => ⟨hplane code hcode, ?_⟩
      exact Bool.eq_false_iff.mpr fun hcode' => hsurrogate ⟨code, hcode, hcode'⟩
  · refine .inr ⟨_, .outsidePlane ?_⟩
    simpa using hplane

/-- Whatever is refused is refused with its kind. -/
theorem Refused.encode_eq {kind : FaultKind} (h : Refused codes kind) :
    ∃ failure, encode codes = .error failure ∧ failure.kind = kind := by
  cases h with
  | outsidePlane h => exact ⟨_, encode_of_outsidePlane h, rfl⟩
  | surrogate hplane h => exact ⟨_, encode_of_surrogate hplane h, rfl⟩

/-- **A text has an encoding if it consists of units**, and then it is their octets and the terminator. -/
theorem encode_eq_ok_iff {octets : Bytes} :
    encode codes = .ok octets ↔ InUnits codes ∧ codes.flatMap unitOctets ++ [0, 0] = octets := by
  constructor
  · intro h
    obtain hunits | ⟨kind, hrefused⟩ := inUnits_or_refused codes
    · exact ⟨hunits, Except.ok.inj ((encode_of_inUnits hunits).symm.trans h)⟩
    · obtain ⟨failure, herror, -⟩ := hrefused.encode_eq
      exact nomatch herror.symm.trans h
  · rintro ⟨hunits, rfl⟩
    exact encode_of_inUnits hunits

/-- **What becomes of a text**, for every row of code points. It is refused for a code point outside the plane, wherever
this stands and whatever else is wrong, otherwise for a surrogate, and for nothing else. If it is not refused, its
password form has two octets for each code point and two for the terminator, which are zero, and gives the text back. So
no two texts have one password form. -/
theorem encode_outcome (codes : List Nat) :
    (∀ kind, (∃ failure, encode codes = .error failure ∧ failure.kind = kind) ↔ Refused codes kind)
      ∧ (InUnits codes → ∃ octets, encode codes = .ok octets ∧ octets.length = 2 * (codes.length + 1)
        ∧ octets.drop (2 * codes.length) = [0, 0] ∧ decode octets = codes)
      ∧ ∀ other octets, encode codes = .ok octets → encode other = .ok octets → other = codes := by
  refine ⟨fun kind => ⟨?_, Refused.encode_eq⟩, fun hunits => ?_, fun other octets h h' => ?_⟩
  · rintro ⟨failure, herror, rfl⟩
    -- a failure is one of the two refusals, since a text of units has none
    obtain hunits | ⟨kind, hrefused⟩ := inUnits_or_refused codes
    · exact nomatch herror.symm.trans (encode_of_inUnits hunits)
    · obtain ⟨failure', herror', rfl⟩ := hrefused.encode_eq
      rw [Except.error.inj (herror.symm.trans herror')]
      exact hrefused
  · refine ⟨_, encode_of_inUnits hunits, ?_, ?_, decode_append_terminator fun code hcode => (hunits code hcode).1⟩
    · rw [List.length_append, length_flatMap_unitOctets]
      rfl
    · exact List.drop_left' (length_flatMap_unitOctets codes)
  -- two texts with one encoding are both what it is decoded to
  · obtain ⟨hunits, rfl⟩ := encode_eq_ok_iff.mp h
    obtain ⟨hunits', hsame⟩ := encode_eq_ok_iff.mp h'
    rw [← decode_append_terminator fun code hcode => (hunits' code hcode).1, hsame,
      decode_append_terminator fun code hcode => (hunits code hcode).1]

/-- The zero and the neighbours of the surrogates are units like any other. A code point outside the plane counts before
a surrogate in front of it. -/
theorem encode_outcome_around_surrogates :
    (∃ octets, encode [0, 0xd7ff, 0xe000, 0xffff] = .ok octets ∧ octets.length = 10 ∧ octets.drop 8 = [0, 0]
        ∧ decode octets = [0, 0xd7ff, 0xe000, 0xffff])
      ∧ (∃ failure, encode [0xd800, 0x10000] = .error failure ∧ failure.kind = .derivation)
      ∧ ∃ failure, encode [0x61, 0xdfff] = .error failure ∧ failure.kind = .encode := by
  obtain ⟨-, hunits, -⟩ := encode_outcome [0, 0xd7ff, 0xe000, 0xffff]
  obtain ⟨houtside, -, -⟩ := encode_outcome [0xd800, 0x10000]
  obtain ⟨hsurrogate, -, -⟩ := encode_outcome [0x61, 0xdfff]
  exact ⟨hunits (by decide), (houtside _).mpr (.outsidePlane (by decide)),
    (hsurrogate _).mpr (.surrogate (by decide) (by decide))⟩

end Shroud.Password
