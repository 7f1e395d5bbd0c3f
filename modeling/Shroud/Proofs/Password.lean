import Shroud.Proofs.Derivation
import Shroud.Proofs.Password.Units

/-!
# Different passwords are hashed differently

Stretching repeats its input, and of two strings that repeat to the same one, such as `ab` and `abab`, it keeps no
trace. The password form of a text cannot be one of two such strings. It ends in a unit that is zero, and no unit in
front of that is, so the text can be read off the beginning of the stretched octets: no password form stands in front
of another one (`eq_of_terminated_append`, by induction on both texts), and each stands in front of what it is
stretched to (`Derivation.exists_stretch_eq_append`).

`stretch_ne_of_ne` says this of the octets that a derivation hashes first, and that without the terminator it fails.
-/

namespace Shroud.Password

open Shroud.Derivation

/-- **A text that a zero can end**: each of its characters is one unit, no surrogate, and not zero. -/
def Plain (codes : List Nat) : Prop :=
  ∀ code ∈ codes, 0 < code ∧ code ≤ 0xffff ∧ isSurrogate code = false

instance (codes : List Nat) : Decidable (Plain codes) :=
  inferInstanceAs (Decidable (∀ code ∈ codes, 0 < code ∧ code ≤ 0xffff ∧ isSurrogate code = false))

/-- Such a text has a password form. -/
theorem encode_of_plain {codes : List Nat} (h : Plain codes) :
    encode codes = .ok (codes.flatMap unitOctets ++ [0, 0]) :=
  encode_of_inUnits fun code hcode => (h code hcode).2

/-! ### Reading a text off its octets -/

/-- Units are two octets each, so the first one can be told. -/
theorem unitOctets_append_inj {c d : Nat} (hc : c ≤ 0xffff) (hd : d ≤ 0xffff) {x y : Bytes}
    (h : unitOctets c ++ x = unitOctets d ++ y) : c = d ∧ x = y := by
  obtain ⟨hunit, hrest⟩ := List.append_inj h rfl
  obtain ⟨hhigh, hlow, -⟩ : UInt8.ofNat (c / 256) = UInt8.ofNat (d / 256)
      ∧ UInt8.ofNat (c % 256) = UInt8.ofNat (d % 256) ∧ True := by
    simpa [unitOctets] using hunit
  have hhigh := congrArg UInt8.toNat hhigh
  have hlow := congrArg UInt8.toNat hlow
  rw [UInt8.toNat_ofNat', UInt8.toNat_ofNat'] at hhigh hlow
  exact ⟨by omega, hrest⟩

/-- **No password form stands in front of another one**: whatever comes behind them, different texts differ. -/
theorem eq_of_terminated_append {p q : List Nat} (hp : Plain p) (hq : Plain q) {x y : Bytes}
    (h : p.flatMap unitOctets ++ [0, 0] ++ x = q.flatMap unitOctets ++ [0, 0] ++ y) : p = q := by
  have hzero : ([0, 0] : Bytes) = unitOctets 0 := rfl
  induction p generalizing q with
  | nil =>
    cases q with
    | nil => rfl
    | cons d q =>
      -- the terminator of the empty text is no unit of the other one
      obtain ⟨hpos, hle, -⟩ := hq d List.mem_cons_self
      rw [List.flatMap_nil, List.nil_append, hzero, List.flatMap_cons, List.append_assoc, List.append_assoc] at h
      exact absurd (unitOctets_append_inj (Nat.zero_le _) hle h).1 (by omega)
  | cons c p ih =>
    obtain ⟨hpos, hle, -⟩ := hp c List.mem_cons_self
    cases q with
    | nil =>
      rw [List.flatMap_nil, List.nil_append, hzero, List.flatMap_cons, List.append_assoc, List.append_assoc] at h
      exact absurd (unitOctets_append_inj hle (Nat.zero_le _) h).1 (by omega)
    | cons d q =>
      obtain ⟨-, hle', -⟩ := hq d List.mem_cons_self
      simp only [List.flatMap_cons, List.append_assoc] at h
      -- both go on, and the first units are the same
      obtain ⟨rfl, hrest⟩ := unitOctets_append_inj hle hle' h
      have hp' : Plain p := fun code hcode => hp code (List.mem_cons_of_mem _ hcode)
      have hq' : Plain q := fun code hcode => hq code (List.mem_cons_of_mem _ hcode)
      rw [ih hp' hq' (by simpa only [List.append_assoc] using hrest)]

/-! ### Stretched passwords -/

/-- **Without terminators a text and the same text twice collapse**, as long as both fit into one block. -/
theorem stretch_units_append_self {codes : List Nat} (hsome : codes ≠ []) (hlen : codes.length ≤ 16) :
    stretch 64 ((codes ++ codes).flatMap unitOctets) = stretch 64 (codes.flatMap unitOctets) := by
  have hpos : 0 < codes.length := List.length_pos_iff.mpr hsome
  rw [stretch, stretch, List.flatMap_append, Bytes.cycle_append_self, List.length_append,
    length_flatMap_unitOctets]
  -- one block in either case
  have hone : (2 * codes.length + 2 * codes.length + 64 - 1) / 64 = 1 := by omega
  have hone' : (2 * codes.length + 64 - 1) / 64 = 1 := by omega
  rw [hone, hone']

/-- **Different passwords never collapse before hashing.** Two different texts of any lengths, of characters that are
one unit each, no surrogates and not zero, have password forms, and for every block size these are stretched to
different octets. So under every digest, for every salt and purpose, what a derivation hashes first differs. It is the
terminator that makes this so: without it a text of up to sixteen characters, and the same text written twice, are
stretched to the same block. -/
theorem stretch_ne_of_ne {p q : List Nat} (hp : Plain p) (hq : Plain q) (hne : p ≠ q) :
    ∃ a b, encode p = .ok a ∧ encode q = .ok b ∧ a = p.flatMap unitOctets ++ [0, 0]
      ∧ (∀ v : Nat, 0 < v → stretch? v a = .ok (stretch v a) ∧ stretch? v b = .ok (stretch v b)
        ∧ stretch v a ≠ stretch v b)
      ∧ (∀ (H : Digest) (salt : Bytes) (id : Nat),
        diversifierBlock H id ++ firstInput H salt a ≠ diversifierBlock H id ++ firstInput H salt b)
      ∧ (p ≠ [] → p.length ≤ 16 →
        stretch 64 ((p ++ p).flatMap unitOctets) = stretch 64 (p.flatMap unitOctets)) := by
  have hstretch : ∀ v, 0 < v →
      stretch v (p.flatMap unitOctets ++ [0, 0]) ≠ stretch v (q.flatMap unitOctets ++ [0, 0]) := by
    intro v hv h
    obtain ⟨x, hx⟩ := exists_stretch_eq_append hv (p.flatMap unitOctets ++ [0, 0])
    obtain ⟨y, hy⟩ := exists_stretch_eq_append hv (q.flatMap unitOctets ++ [0, 0])
    rw [hx, hy] at h
    exact hne (eq_of_terminated_append hp hq h)
  refine ⟨_, _, encode_of_plain hp, encode_of_plain hq, rfl, fun v hv => ?_, fun H salt id h => ?_,
    stretch_units_append_self⟩
  · exact ⟨stretch?_natCast hv _, stretch?_natCast hv _, hstretch v hv⟩
  · -- the diversifier block and the stretched salt are the same, so the passwords would be
    exact hstretch H.blockSize H.blockSize_pos (List.append_cancel_left (List.append_cancel_left h))

/-- `ab` and `abab` are stretched to different blocks, and to the same one without their terminators. -/
theorem stretch_ne_of_ne_written_twice :
    Plain [0x61, 0x62] ∧ Plain [0x61, 0x62, 0x61, 0x62]
      ∧ ∃ a b, encode [0x61, 0x62] = .ok a ∧ encode [0x61, 0x62, 0x61, 0x62] = .ok b
        ∧ stretch 64 a ≠ stretch 64 b
        ∧ diversifierBlock .sha1 1 ++ firstInput .sha1 [0xff] a
          ≠ diversifierBlock .sha1 1 ++ firstInput .sha1 [0xff] b
        ∧ stretch 64 ([0x61, 0x62, 0x61, 0x62].flatMap unitOctets) = stretch 64 ([0x61, 0x62].flatMap unitOctets) := by
  have hp : Plain [0x61, 0x62] := by decide
  have hq : Plain [0x61, 0x62, 0x61, 0x62] := by decide
  obtain ⟨a, b, ha, hb, -, hstretch, hfirst, htwice⟩ := stretch_ne_of_ne hp hq (by decide)
  exact ⟨hp, hq, a, b, ha, hb, (hstretch 64 (by decide)).2.2, hfirst .sha1 [0xff] 1,
    htwice (by decide) (by decide)⟩

end Shroud.Password
