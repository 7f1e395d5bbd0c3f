import Shroud.Proofs.Cipher.Pieces
import Shroud.Proofs.Derivation
import Shroud.Proofs.Engine.Custody
import Shroud.Proofs.Engine.Outcome

/-!
# Consistent descriptors

A descriptor holds sizes and the name of a digest, and nothing in it makes them fit together. This is about the modes of
any descriptor, with the library's own derivation function.

* `Descriptor.Derivable`: key and vector can be derived. If not, `Descriptor.Refused` says which fault is reported,
  which is the first one in the order digest, count, size of the key, size of the vector (`Engine.modeFor_of_refused`).
* `Descriptor.Consistent`: the cipher takes the key and the mode takes the vector as well. If only these fail,
  `Descriptor.Mismatched` says how (`Engine.modeFor_of_mismatched`).
* `Descriptor.IsMode` describes the mode of a consistent descriptor (`Engine.exists_modeFor_of_consistent`).

It ends in one of these three ways (`Engine.modeFor_cases`), and `Engine.buildMode_outcome` says so of the operation
that works on a password, which it consumes in each case. The block size of a descriptor is not looked at.

A refusal names a number as it was given, and one of more than 4300 digits has no place in a message. So a count or a
size that is far below one is refused by another kind of failure than one that is just below
(`Engine.buildMode_count_of_many_digits`).
-/

namespace Shroud

namespace Scheme

/-- The family of a scheme's cipher. -/
def family : Scheme → CipherFamily
  | tripleDes => .tripleDes
  | rc2 => .rc2

/-- A scheme makes its ciphers from the key alone, whose length gives the bits. -/
theorem newCipher_eq_make (s : Scheme) (key : Bytes) :
    s.newCipher key = Cipher.make s.family key (8 * key.length) := by
  cases s <;> rfl

end Scheme

namespace Descriptor

variable {d : Descriptor} {salt password : Bytes} {iterations : Int}

/-! ### What may be wrong with a descriptor -/

/-- The digest is one of the two that are known. -/
def HasDigest (d : Descriptor) : Prop :=
  d.digest = .text "sha1" ∨ d.digest = .text "sha256"

/-- **Key and vector can be derived** under a count. -/
structure Derivable (d : Descriptor) (iterations : Int) : Prop where
  digest : d.HasDigest
  count : 1 ≤ iterations
  keySize : 1 ≤ d.keySize
  ivSize : 1 ≤ d.ivSize

/-- **All that a descriptor says fits together**, under a count. -/
structure Consistent (d : Descriptor) (iterations : Int) : Prop where
  digest : d.HasDigest
  count : 1 ≤ iterations
  keySize : d.scheme.family.Admits d.keySize
  ivSize : d.ivSize = 8

/-- **Why nothing is derived.** Of several reasons, the first one counts. -/
inductive Refused (d : Descriptor) (iterations : Int) : DerivationFault → Prop where
  | digest {name : String} (hname : d.digest = .text name) (hunknown : ¬ d.HasDigest) :
      Refused d iterations (.unknownDigest name)
  | count (hdigest : d.HasDigest) (hcount : iterations < 1) : Refused d iterations (.iterations iterations)
  | keySize (hdigest : d.HasDigest) (hcount : 1 ≤ iterations) (hkey : d.keySize < 1) :
      Refused d iterations (.outputLength d.keySize)
  | ivSize (hdigest : d.HasDigest) (hcount : 1 ≤ iterations) (hkey : 1 ≤ d.keySize) (hiv : d.ivSize < 1) :
      Refused d iterations (.outputLength d.ivSize)

/-- **Why there is no mode for what is derived**: the key has not the size of the cipher's keys, or it has and the
vector is not one block. -/
inductive Mismatched (d : Descriptor) : CipherFault → Prop where
  | key (hkey : ¬ d.scheme.family.Admits d.keySize) :
      Mismatched d (d.scheme.family.keyFault d.keySize.toNat)
  | vector (hkey : d.scheme.family.Admits d.keySize) (hiv : d.ivSize ≠ 8) :
      Mismatched d (Cipher.CipherFamily.ivFault d.scheme.family)

/-- **The mode of a descriptor** in a direction. -/
structure IsMode (d : Descriptor) (salt password : Bytes) (iterations : Int) (direction : Direction) (mode : Mode) :
    Prop where
  /-- The block cipher is under octets derived for purpose 1, as many as the key has. RC2 takes all their bits as
  effective. -/
  cipher : ∃ key, Derivation.derive salt password iterations 1 d.keySize d.digest = .ok key
    ∧ d.scheme.family.Under key (8 * d.keySize) mode.cipher
  /-- The vector is eight octets derived for purpose 2. -/
  vector : Derivation.derive salt password iterations 2 8 d.digest = .ok mode.chain.toList
  label : mode.label = direction.label
  /-- Data is taken in whole blocks of eight octets. -/
  accepts : ∀ data, (∃ out next, mode.crypt data = .ok (out, next)) ↔ 0 < data.length ∧ 8 ∣ data.length
  /-- What comes out is one run of chaining in the direction. -/
  chains : ∀ data out next, mode.crypt data = .ok (out, next) →
    out = Cbc.Standard.octets mode.cipher direction mode.chain data

/-- Consistent sizes can be derived. -/
theorem Consistent.derivable (h : d.Consistent iterations) : d.Derivable iterations where
  digest := h.digest
  count := h.count
  keySize := by
    have hkey := h.keySize
    unfold CipherFamily.Admits at hkey
    split at hkey <;> omega
  ivSize := by
    have hiv := h.ivSize
    omega

/-- What is refused cannot be derived. -/
theorem Refused.not_derivable {fault : DerivationFault} (h : d.Refused iterations fault) :
    ¬ d.Derivable iterations := by
  intro hderivable
  cases h with
  | digest _ hunknown => exact hunknown hderivable.digest
  | count _ hcount => exact not_le.mpr hcount hderivable.count
  | keySize _ _ hkey => exact not_le.mpr hkey hderivable.keySize
  | ivSize _ _ _ hiv => exact not_le.mpr hiv hderivable.ivSize

/-- **Sizes can be derived or are refused**, and the first that is wrong is the one refused. -/
theorem derivable_or_refused {name : String} (hname : d.digest = .text name) (iterations : Int) :
    d.Derivable iterations ∨ ∃ fault, d.Refused iterations fault := by
  -- in the order in which a derivation looks at its arguments
  by_cases hdigest : d.HasDigest
  · rcases lt_or_ge iterations 1 with hcount | hcount
    · exact .inr ⟨_, .count hdigest hcount⟩
    · rcases lt_or_ge d.keySize 1 with hkey | hkey
      · exact .inr ⟨_, .keySize hdigest hcount hkey⟩
      · rcases lt_or_ge d.ivSize 1 with hiv | hiv
        · exact .inr ⟨_, .ivSize hdigest hcount hkey hiv⟩
        · exact .inl ⟨hdigest, hcount, hkey, hiv⟩
  · exact .inr ⟨_, .digest hname hdigest⟩

/-- What does not match the cipher is not consistent. -/
theorem Mismatched.not_consistent {fault : CipherFault} (h : d.Mismatched fault) : ¬ d.Consistent iterations := by
  intro hconsistent
  cases h with
  | key hkey => exact hkey hconsistent.keySize
  | vector _ hiv => exact hiv hconsistent.ivSize

/-- Sizes that can be derived suit the cipher, or the cipher tells what does not. -/
theorem Derivable.consistent_or_mismatched (h : d.Derivable iterations) :
    d.Consistent iterations ∨ ∃ fault, d.Mismatched fault := by
  by_cases hkey : d.scheme.family.Admits d.keySize
  · by_cases hiv : d.ivSize = 8
    · exact .inl ⟨h.digest, h.count, hkey, hiv⟩
    · exact .inr ⟨_, .vector hkey hiv⟩
  · exact .inr ⟨_, .key hkey⟩

/-! ### Derivation for a descriptor -/

theorem HasDigest.exists_digestOf (h : d.HasDigest) : ∃ H, Derivation.digestOf d.digest = .ok H := by
  rcases h with h | h <;> rw [h]
  · exact ⟨.sha1, rfl⟩
  · exact ⟨.sha256, rfl⟩

/-- A name of no digest is refused with the name. -/
theorem digestOf_of_not_hasDigest {name : String} (hname : d.digest = .text name) (hunknown : ¬ d.HasDigest) :
    Derivation.digestOf d.digest = .error (.derivation (.unknownDigest name)) := by
  have hnone : Digest.named? name = none := by
    unfold Digest.named?
    split
    · exact absurd (.inl hname) hunknown
    · exact absurd (.inr hname) hunknown
    · rfl
  rw [hname, Derivation.digestOf_text, hnone]

/-- **Derivation for a descriptor** gives octets of the size that it asks for. -/
theorem exists_derive (hdigest : d.HasDigest) (purpose : Purpose) {size : Int} (hsize : 1 ≤ size)
    (salt password : Bytes) (hcount : 1 ≤ iterations) :
    ∃ derived, Derivation.derive salt password iterations purpose.id size d.digest = .ok derived
      ∧ d.derive Derivation.derive purpose size salt password iterations = .ok derived
      ∧ (derived.length : Int) = size := by
  obtain ⟨H, hknown⟩ := hdigest.exists_digestOf
  obtain ⟨rounds, rfl⟩ := Int.eq_ofNat_of_zero_le (by omega : 0 ≤ iterations)
  obtain ⟨length, rfl⟩ := Int.eq_ofNat_of_zero_le (by omega : 0 ≤ size)
  have hrounds : 0 < rounds := by omega
  have hid : ((UInt8.ofNat purpose.id).toNat : Int) = purpose.id := by cases purpose <;> rfl
  have hderive := Derivation.derive_of_digestOf hknown salt password (UInt8.ofNat purpose.id) hrounds
    (by omega : 0 < length)
  rw [hid] at hderive
  -- the descriptor compares the length of what it gets, which is the one it asked for
  have hlen := Derivation.length_deriveWith H salt password hrounds (UInt8.ofNat purpose.id).toNat length
  refine ⟨_, hderive, ?_, congrArg Int.ofNat hlen⟩
  rw [Descriptor.derive, hderive]
  exact if_neg (by rw [hlen]; simp)

/-- A derivation that fails yields no material. -/
theorem derive_of_error (purpose : Purpose) {size : Int} {failure : Failure}
    (h : Derivation.derive salt password iterations purpose.id size d.digest = .error failure) :
    d.derive Derivation.derive purpose size salt password iterations = .error failure := by
  rw [Descriptor.derive, h]
  rfl

end Descriptor

namespace Engine

variable {e : Engine} {d : Descriptor} {iterations : Int}

/-! ### The mode of a descriptor -/

/-- **What cannot be derived** is reported with the first fault. -/
theorem modeFor_of_refused (hfunction : e.function = Derivation.derive) {fault : DerivationFault}
    (h : d.Refused iterations fault) (password salt : Bytes) (direction : Direction) :
    e.modeFor d password salt iterations direction = .error (Failure.derivation fault).checked := by
  -- all faults but the last one show when the key is derived
  have hfirst : ∀ {failure}, Derivation.derive salt password iterations 1 d.keySize d.digest = .error failure →
      e.modeFor d password salt iterations direction = .error failure := by
    intro failure hkey
    rw [modeFor, hfunction, Descriptor.deriveKey, Descriptor.derive_of_error .key hkey]
    rfl
  cases h with
  | digest hname hunknown =>
    have hdigest := Descriptor.digestOf_of_not_hasDigest hname hunknown
    exact hfirst (Derivation.derive_of_digestOf_eq_error hdigest ..)
  | count hdigest hcount =>
    obtain ⟨H, hknown⟩ := hdigest.exists_digestOf
    exact hfirst (Derivation.derive_of_lt_one hknown salt password hcount ..)
  | keySize hdigest hcount hkey =>
    obtain ⟨H, hknown⟩ := hdigest.exists_digestOf
    exact hfirst (Derivation.derive_of_length_lt_one hknown salt password hcount _ hkey)
  | ivSize hdigest hcount hkey hiv =>
    obtain ⟨H, hknown⟩ := hdigest.exists_digestOf
    obtain ⟨key, -, hderived, -⟩ := Descriptor.exists_derive hdigest .key hkey salt password hcount
    have hrefused := Derivation.derive_of_length_lt_one hknown salt password hcount (Purpose.id .iv) hiv
    rw [modeFor, hfunction, Descriptor.deriveKey, hderived, Descriptor.deriveIv,
      Descriptor.derive_of_error .iv hrefused]
    rfl

/-- **Key and vector are derived** in the sizes that the descriptor asks for, and the mode is opened under them. -/
theorem exists_material (hfunction : e.function = Derivation.derive) (h : d.Derivable iterations)
    (password salt : Bytes) :
    ∃ key iv, Derivation.derive salt password iterations 1 d.keySize d.digest = .ok key
      ∧ Derivation.derive salt password iterations 2 d.ivSize d.digest = .ok iv
      ∧ (key.length : Int) = d.keySize ∧ (iv.length : Int) = d.ivSize
      ∧ ∀ direction, e.modeFor d password salt iterations direction = modeUnder d direction key iv := by
  obtain ⟨key, hkey, hdescribed, hkeyLength⟩ := Descriptor.exists_derive h.digest .key h.keySize salt password h.count
  obtain ⟨iv, hiv, hdescribed', hivLength⟩ := Descriptor.exists_derive h.digest .iv h.ivSize salt password h.count
  refine ⟨key, iv, hkey, hiv, hkeyLength, hivLength, fun direction => ?_⟩
  rw [modeFor, hfunction, Descriptor.deriveKey, hdescribed, Descriptor.deriveIv, hdescribed']
  rfl

/-- **What does not fit the cipher** is reported as such. -/
theorem modeFor_of_mismatched (hfunction : e.function = Derivation.derive) (h : d.Derivable iterations)
    {fault : CipherFault} (hfault : d.Mismatched fault) (password salt : Bytes) (direction : Direction) :
    e.modeFor d password salt iterations direction = .error (.cipher fault) := by
  obtain ⟨key, iv, -, -, hkeyLength, hivLength, hmode⟩ := exists_material hfunction h password salt
  rw [hmode, modeUnder, Scheme.newCipher_eq_make]
  cases hfault with
  -- the key is looked at first, and the vector only with a key that the cipher admits
  | key hkey =>
    rw [← hkeyLength] at hkey ⊢
    rw [Cipher.make_of_not_admits hkey]
    rfl
  | vector hkey hiv =>
    rw [← hkeyLength] at hkey
    obtain ⟨keyed, hunder⟩ := CipherFamily.exists_under_of_admits hkey
    obtain ⟨c, hc, hkeyed⟩ := Cipher.exists_make hunder
    have hlen : iv.length ≠ 8 := by omega
    rw [hc, ← Cipher.family_of_make hc]
    exact Cipher.openMode_of_length_ne hkeyed hlen direction.label

/-- **A consistent descriptor has a mode** in each direction, under one block cipher and from one vector. -/
theorem exists_modeFor_of_consistent (hfunction : e.function = Derivation.derive) (h : d.Consistent iterations)
    (password salt : Bytes) :
    ∃ cipher vector, ∀ direction,
      e.modeFor d password salt iterations direction = .ok ⟨cipher, direction.label, vector⟩
        ∧ d.IsMode salt password iterations direction ⟨cipher, direction.label, vector⟩ := by
  obtain ⟨key, iv, hkey, hiv, hkeyLength, hivLength, hmode⟩ := exists_material hfunction h.derivable password salt
  have hadmits := h.keySize
  rw [h.ivSize] at hiv hivLength
  rw [← hkeyLength] at hadmits
  obtain ⟨cipher, hunder⟩ := CipherFamily.exists_under_of_admits hadmits
  obtain ⟨c, hc, hkeyed⟩ := Cipher.exists_make hunder
  -- eight octets are one block, with which the mode starts
  obtain ⟨vector, rfl⟩ := Block.exists_toList_eq_iff.mpr (Int.ofNat.inj hivLength)
  refine ⟨cipher, vector, fun direction => ⟨?_, ⟨key, hkey, ?_⟩, hiv, rfl, fun data => Mode.exists_crypt_iff, ?_⟩⟩
  · rw [hmode, modeUnder, Scheme.newCipher_eq_make, hc]
    exact Cipher.openMode_eq_ok_iff.mpr ⟨hkeyed, rfl, rfl⟩
  · rwa [← hkeyLength]
  · intro data out next hcrypt
    have hpasses := (Mode.crypt_eq_ok_iff.mp hcrypt).2.eq_octets
    rwa [Direction.ofLabel_label] at hpasses

/-- **The three ways in which it ends**, told apart by the descriptor and the count. -/
theorem modeFor_cases (hfunction : e.function = Derivation.derive) {name : String} (hname : d.digest = .text name)
    (iterations : Int) (password salt : Bytes) (direction : Direction) :
    (d.Consistent iterations ∧ ∃ mode, e.modeFor d password salt iterations direction = .ok mode
        ∧ d.IsMode salt password iterations direction mode)
      ∨ (∃ fault, d.Refused iterations fault
        ∧ e.modeFor d password salt iterations direction = .error (Failure.derivation fault).checked)
      ∨ (d.Derivable iterations ∧ ∃ fault, d.Mismatched fault
        ∧ e.modeFor d password salt iterations direction = .error (.cipher fault)) := by
  rcases Descriptor.derivable_or_refused hname iterations with hderivable | ⟨fault, hrefused⟩
  · rcases hderivable.consistent_or_mismatched with hconsistent | ⟨fault, hmismatched⟩
    · obtain ⟨cipher, vector, hmodes⟩ := exists_modeFor_of_consistent hfunction hconsistent password salt
      exact .inl ⟨hconsistent, _, hmodes direction⟩
    · have hfailure := modeFor_of_mismatched hfunction hderivable hmismatched password salt direction
      exact .inr (.inr ⟨hderivable, fault, hmismatched, hfailure⟩)
  · exact .inr (.inl ⟨fault, hrefused, modeFor_of_refused hfunction hrefused password salt direction⟩)

/-- **A mode is built exactly for a consistent descriptor.** Whatever the sizes, the name of the digest and the count
are, a mode that is built is the one of the descriptor in the direction that was asked for. Otherwise the failure is
the first fault of derivation, if key and vector cannot be derived, and a fault of the cipher, if they can. A fault of
derivation whose number has too many digits is reported as a wrong value. The password is consumed however it ends. -/
theorem buildMode_outcome (hfunction : e.function = Derivation.derive) {name : String} (hname : d.digest = .text name)
    (salt : Bytes) (iterations : Int) (direction : Direction) {given : Secret} {password : Bytes}
    (hgiven : given.octets? = some password) (session : Session) {outcome : Except Failure Mode} {after : Call}
    (hrun : e.buildMode d salt iterations direction (.offering given session) = (outcome, after)) :
    ((∃ mode, outcome = .ok mode) ↔ d.Consistent iterations)
    ∧ (∀ mode, outcome = .ok mode → d.IsMode salt password iterations direction mode)
    ∧ (¬ d.Derivable iterations →
        ∃ fault, d.Refused iterations fault
          ∧ outcome = .error (if fault.integers.all Decimal.inBounds then .derivation fault
            else .misuse .oversizedInteger))
    ∧ (d.Derivable iterations → ¬ d.Consistent iterations →
        ∃ fault, d.Mismatched fault ∧ outcome = .error (.cipher fault))
    ∧ after.custody.settle = given.consumed := by
  have hgives : e.modeFor d password salt iterations direction = outcome := by
    rw [← e.result_buildMode (.of_octets? hgiven session) d salt iterations direction, Op.result, hrun]
  -- the password is consumed however the mode came out
  have hsettle : after.custody.settle = given.consumed := by
    rw [← (e.consumes_buildMode d salt iterations direction).settle given session, hrun]
  have hcases := modeFor_cases hfunction hname iterations password salt direction
  rw [hgives] at hcases
  have hnone : ∀ {failure}, outcome = .error failure → ¬ ∃ mode, outcome = .ok mode := by
    rintro failure hfailure ⟨mode, hok⟩
    exact absurd (hfailure.symm.trans hok) (by simp)
  -- either all suits, or the derivation refuses, or the cipher does
  rcases hcases with ⟨hconsistent, mode, hok, hmode⟩ | ⟨fault, hrefused, hfailure⟩
    | ⟨hderivable, fault, hmismatched, hfailure⟩
  · refine ⟨iff_of_true ⟨mode, hok⟩ hconsistent, fun mode' hok' => ?_, ?_, ?_, hsettle⟩
    · obtain rfl := Except.ok.inj (hok.symm.trans hok')
      exact hmode
    · exact fun hnot => absurd hconsistent.derivable hnot
    · exact fun _ hnot => absurd hconsistent hnot
  · have hnot := hrefused.not_derivable
    refine ⟨iff_of_false (hnone hfailure) fun h => hnot h.derivable, ?_, ?_, ?_, hsettle⟩
    · exact fun mode hok => absurd ⟨mode, hok⟩ (hnone hfailure)
    · exact fun _ => ⟨fault, hrefused, hfailure⟩
    · exact fun hderivable => absurd hderivable hnot
  · refine ⟨iff_of_false (hnone hfailure) hmismatched.not_consistent, ?_, ?_, ?_, hsettle⟩
    · exact fun mode hok => absurd ⟨mode, hok⟩ (hnone hfailure)
    · exact fun hnot => absurd hderivable hnot
    · exact fun _ _ => ⟨fault, hmismatched, hfailure⟩

/-- RC2 takes a key of sixteen octets from SHA-256. With four octets and a vector of seven the key is reported, and with
a digest that is not known and no iterations the digest is. A buffer is zeroed then too. -/
theorem buildMode_outcome_sixteen_octets :
    (∃ mode,
      ((withSettings {}).buildMode ⟨.rc2, Scheme.rc2.oid, 16, 8, 99, .text "sha256"⟩ [0xff] 2 .decrypt).result
          (.offering (.buffer [0, 0x61]) {}) = .ok mode
      ∧ Descriptor.IsMode ⟨.rc2, Scheme.rc2.oid, 16, 8, 99, .text "sha256"⟩ [0xff] [0, 0x61] 2 .decrypt mode)
    ∧ ((withSettings {}).buildMode ⟨.rc2, Scheme.rc2.oid, 4, 7, 99, .text "sha1"⟩ [0xff] 2 .decrypt).result
        (.offering (.buffer [0, 0x61]) {}) = .error (.cipher (.rc2Key 4))
    ∧ ((withSettings {}).buildMode ⟨.rc2, Scheme.rc2.oid, 4, 0, 99, .text "md5"⟩ [0xff] 0 .decrypt).result
        (.offering (.buffer [0, 0x61]) {}) = .error (.derivation (.unknownDigest "md5"))
    ∧ ((withSettings {}).buildMode ⟨.rc2, Scheme.rc2.oid, 4, 0, 99, .text "md5"⟩ [0xff] 0 .decrypt
        (.offering (.buffer [0, 0x61]) {})).2.custody.settle = .buffer [0, 0] := by
  have hgiven : (Secret.buffer [0, 0x61]).octets? = some [0, 0x61] := rfl
  refine ⟨?_, ?_, ?_⟩
  · obtain ⟨hbuilt, hmode, -⟩ := buildMode_outcome (e := withSettings {})
      (d := ⟨.rc2, Scheme.rc2.oid, 16, 8, 99, .text "sha256"⟩) rfl rfl [0xff] 2 .decrypt hgiven {} rfl
    obtain ⟨mode, hok⟩ := hbuilt.mpr ⟨.inr rfl, by decide, by decide, rfl⟩
    exact ⟨mode, hok, hmode mode hok⟩
  · obtain ⟨-, -, -, hcipher, -⟩ := buildMode_outcome (e := withSettings {})
      (d := ⟨.rc2, Scheme.rc2.oid, 4, 7, 99, .text "sha1"⟩) rfl rfl [0xff] 2 .decrypt hgiven {} rfl
    -- the key suits the cipher, so it can only be the vector
    have hseven : ¬ (7 : Int) = 8 := by decide
    obtain ⟨fault, hfault, hresult⟩ := hcipher ⟨.inl rfl, by decide, by decide, by decide⟩ fun h => hseven h.ivSize
    cases hfault with
    | key => exact hresult
    | vector hkey => exact absurd hkey.1 (by decide)
  · obtain ⟨-, -, hderivation, -, hsettle⟩ := buildMode_outcome (e := withSettings {})
      (d := ⟨.rc2, Scheme.rc2.oid, 4, 0, 99, .text "md5"⟩) rfl rfl [0xff] 0 .decrypt hgiven {} rfl
    -- nothing behind the digest is looked at
    have hunknown : ¬ Descriptor.HasDigest ⟨.rc2, Scheme.rc2.oid, 4, 0, 99, .text "md5"⟩ := by
      simp [Descriptor.HasDigest]
    obtain ⟨fault, hfault, hresult⟩ := hderivation fun h => hunknown h.digest
    refine ⟨?_, hsettle⟩
    cases hfault with
    | digest hname =>
      obtain rfl := Value.text.inj hname
      exact hresult
    | count hdigest => exact absurd hdigest hunknown
    | keySize hdigest => exact absurd hdigest hunknown
    | ivSize hdigest => exact absurd hdigest hunknown

/-- A count of minus ten to the power of 4300 is refused, but not as a fault of derivation. -/
theorem buildMode_count_of_many_digits :
    -(Decimal.bound : Int) < 1
      ∧ ((withSettings {}).buildMode Scheme.tripleDes.descriptor [0xff] (-(Decimal.bound : Int)) .encrypt).result
        (.offering (.octets [0, 0x61]) {}) = .error (.misuse .oversizedInteger)
      ∧ (Failure.misuse .oversizedInteger).kind ≠ .derivation := by
  have hnegative : -(Decimal.bound : Int) < 1 := by omega
  have hdigits : Decimal.inBounds (-(Decimal.bound : Int)) = false := by
    rw [Decimal.inBounds, Int.natAbs_neg, Int.natAbs_natCast]
    exact decide_eq_false (lt_irrefl _)
  have hall : [-(Decimal.bound : Int)].all Decimal.inBounds = false := by
    rw [List.all_cons, hdigits, Bool.false_and]
  have hrefused : Scheme.tripleDes.descriptor.Refused (-(Decimal.bound : Int)) _ := .count (.inl rfl) hnegative
  refine ⟨hnegative, ?_, by decide⟩
  rw [result_buildMode _ (.of_octets? rfl {}), modeFor_of_refused rfl hrefused, Failure.checked,
    Failure.integers, DerivationFault.integers, hall]
  rfl

end Engine

end Shroud
