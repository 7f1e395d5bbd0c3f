import Shroud.Proofs.Cipher.Pieces
import Shroud.Proofs.Engine.Material

/-!
# What encrypting computes

`Engine.encrypt_eq_chained` describes the ciphertext of a message without any step of the engine: it is one
run of chaining, under the block cipher and from the vector that the scheme derives, over the message and its
padding. The octets that both are derived from are those of the password as it was handed over. So no scope
that wipes the password ends before the second derivation.

A client that asks for the mode and pads the message itself gets the same octets.
-/

namespace Shroud.Engine

variable {e : Engine}

/-- **Encrypting is one run of chaining over the padded message.** The block cipher and the vector are those
that the scheme derives from the password, and depend neither on the message nor on the kind of secret that
the password is, nor on whether the scheme is asked for as such or by its name. -/
theorem encrypt_eq_chained (hfunction : e.function = Derivation.derive) (scheme : Scheme)
    (salt password : Bytes) {iterations : Int} (hpos : 1 ≤ iterations) :
    ∃ cipher vector, scheme.Derives salt password iterations cipher vector
      ∧ ∀ (asked : Value) (message : Bytes) (given : Secret) (session : Session),
        asked = .scheme scheme ∨ asked = .text scheme.name → given.octets? = some password →
        ∃ padded data,
          padded = message ++ List.replicate (8 - message.length % 8) (UInt8.ofNat (8 - message.length % 8))
          ∧ data = Cbc.Standard.octets cipher .encrypt vector padded
          ∧ data.length = 8 * (message.length / 8 + 1)
          ∧ (e.encrypt asked (some message) salt iterations).result (.offering given session) = .ok data
          ∧ ∃ mode next,
            (e.encrypterFor asked salt iterations).result (.offering given session) = .ok mode
            ∧ mode.crypt padded = .ok (data, next) := by
  obtain ⟨cipher, vector, hderives, hmode⟩ := exists_modeFor hfunction scheme password salt hpos
  refine ⟨cipher, vector, hderives, fun asked message given session hasked hgiven => ?_⟩
  have hc : (Call.offering given session).Holds password := .of_octets? hgiven session
  have hfound : Descriptor.ofScheme asked = .ok scheme.descriptor := by
    rcases hasked with rfl | rfl <;> simp
  obtain ⟨hlen, next, hcrypt⟩ := Mode.crypt_of_admitted cipher .encrypt vector
    (Padding.pad_admitted (by decide : 0 < blockSize) message)
  -- the engine sends the padded message through the very mode that a client gets
  refine ⟨Padding.pad blockSize message, _, rfl, rfl, ?_, ?_, _, next, ?_, hcrypt⟩
  · exact hlen.trans (Padding.length_pad (by decide) message)
  · rw [e.result_encrypt hc, hfound]
    refine bind_eq_ok_iff.mpr ⟨_, rfl, bind_eq_ok_iff.mpr ⟨_, hmode .encrypt, ?_⟩⟩
    rw [Mode.result, hcrypt]
    rfl
  · rw [e.result_encrypterFor hc, hfound]
    exact bind_eq_ok_iff.mpr ⟨_, rfl, hmode .encrypt⟩

/-- Three octets are completed by five. -/
theorem encrypt_eq_chained_three_octets :
    ∃ cipher vector data, Scheme.rc2.Derives [0xff] [0, 0x61] 1 cipher vector
      ∧ ((withSettings {}).encrypt (.text Scheme.rc2.name) (some [1, 2, 3]) [0xff] 1).result
          (.offering (.buffer [0, 0x61]) {}) = .ok data
      ∧ data = Cbc.Standard.octets cipher .encrypt vector [1, 2, 3, 5, 5, 5, 5, 5]
      ∧ data.length = 8 := by
  obtain ⟨cipher, vector, hderives, hencrypt⟩ := encrypt_eq_chained (e := withSettings {}) rfl .rc2 [0xff]
    [0, 0x61] (by decide : (1 : Int) ≤ 1)
  obtain ⟨padded, data, rfl, hdata, hlen, hresult, -⟩ :=
    hencrypt (.text Scheme.rc2.name) [1, 2, 3] (.buffer [0, 0x61]) {} (.inr rfl) rfl
  exact ⟨cipher, vector, data, hderives, hresult, hdata, hlen⟩

end Shroud.Engine
