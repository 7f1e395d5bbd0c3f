import Shroud.Proofs.Engine.Consistency
import Shroud.Proofs.Padding

/-!
# Derived material fits

With the library's own derivation function, a count of at least one leads to a mode for every scheme, salt and
password (`Engine.exists_modeFor`), because the registered descriptors are consistent
(`Scheme.consistent_descriptor`). `Scheme.Derives` says which block cipher and which vector these are. So
encrypting gives a ciphertext for every message (`Engine.exists_encrypted`), and no count below one gives any
(`Engine.one_le_of_encrypted`).
-/

namespace Shroud

namespace Scheme

/-- **What a scheme works with under a password.** -/
structure Derives (s : Scheme) (salt password : Bytes) (iterations : Int) (cipher : BlockCipher)
    (vector : Block) : Prop where
  /-- The block cipher is that of the scheme under octets derived for purpose 1, as many as its key has. RC2
  takes forty effective bits. -/
  cipher : ∃ key,
    Derivation.derive salt password iterations 1 s.descriptor.keySize (.text "sha1") = .ok key
      ∧ s.family.Under key 40 cipher
  /-- The vector is eight octets derived for purpose 2. -/
  vector : Derivation.derive salt password iterations 2 8 (.text "sha1") = .ok vector.toList

/-- **The registered descriptors are consistent** under every count of at least one. -/
theorem consistent_descriptor (s : Scheme) {iterations : Int} (hpos : 1 ≤ iterations) :
    s.descriptor.Consistent iterations where
  digest := .inl s.digest_descriptor
  count := hpos
  keySize := by cases s <;> decide
  ivSize := by cases s <;> rfl

/-- All bits of a scheme's key are forty to RC2, and triple DES does not look at them. -/
theorem under_of_descriptor {s : Scheme} {key : Bytes} {cipher : BlockCipher}
    (h : s.descriptor.scheme.family.Under key (8 * s.descriptor.keySize) cipher) : s.family.Under key 40 cipher := by
  cases s with
  | tripleDes =>
    cases h with
    | tripleDes k₁ k₂ k₃ => exact .tripleDes k₁ k₂ k₃ 40
  | rc2 => exact h

end Scheme

namespace Engine

variable {e : Engine}

/-- **Every scheme, salt and password has a mode** in each direction, under a count of at least one. -/
theorem exists_modeFor (hfunction : e.function = Derivation.derive) (s : Scheme) (password salt : Bytes)
    {iterations : Int} (hpos : 1 ≤ iterations) :
    ∃ cipher vector, s.Derives salt password iterations cipher vector
      ∧ ∀ direction, e.modeFor s.descriptor password salt iterations direction
        = .ok ⟨cipher, direction.label, vector⟩ := by
  obtain ⟨cipher, vector, hmodes⟩ :=
    exists_modeFor_of_consistent hfunction (s.consistent_descriptor hpos) password salt
  obtain ⟨key, hkey, hunder⟩ := (hmodes .encrypt).2.cipher
  have hvector := (hmodes .encrypt).2.vector
  rw [s.digest_descriptor] at hkey hvector
  exact ⟨cipher, vector, ⟨⟨key, hkey, Scheme.under_of_descriptor hunder⟩, hvector⟩,
    fun direction => (hmodes direction).1⟩

/-- **Every message has a ciphertext**, under a count of at least one. -/
theorem exists_encrypted (hfunction : e.function = Derivation.derive) (s : Scheme)
    (password message salt : Bytes) {iterations : Int} (hpos : 1 ≤ iterations) :
    ∃ data, e.encrypted s.descriptor password message salt iterations = .ok data := by
  obtain ⟨cipher, vector, -, hmode⟩ := exists_modeFor hfunction s password salt hpos
  have hpadded := Padding.pad_admitted (by decide : 0 < blockSize) message
  exact ⟨_, bind_eq_ok_iff.mpr
    ⟨_, hmode .encrypt, (Mode.result_eq_ok_iff _ _ _).mpr ⟨hpadded, rfl⟩⟩⟩

theorem one_le_of_encrypted (hfunction : e.function = Derivation.derive) {d : Descriptor}
    {password message salt data : Bytes} {iterations : Int}
    (h : e.encrypted d password message salt iterations = .ok data) : 1 ≤ iterations := by
  -- already the first step, deriving the key, looks at the count
  obtain ⟨m, hm, -⟩ := bind_eq_ok_iff.mp h
  obtain ⟨key, hkey, -⟩ := bind_eq_ok_iff.mp hm
  rw [Descriptor.deriveKey, hfunction] at hkey
  obtain ⟨derived, hderived, -⟩ := bind_eq_ok_iff.mp hkey
  exact Derivation.one_le_of_derive_eq_ok hderived

end Engine

end Shroud
