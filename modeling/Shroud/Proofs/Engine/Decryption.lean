import Shroud.Proofs.Cipher.Pieces
import Shroud.Proofs.Engine.Material
import Shroud.Proofs.Parameters

/-!
# Behind the first checks only padding can fail

Decrypting looks at the algorithm, at the length of the ciphertext and at the parameters. Once all three are
admitted, every later step succeeds for every password: the count is positive, so both derivations give
octets; these are as many as the descriptor asks for, so there is a cipher and a vector; and what comes out of
the mode is as long as the ciphertext, so it has a last octet to look at. `Engine.decrypt_of_admitted` says
what is left: the padding is right and a plaintext comes out, or it is wrong and the failure is that of
padding.
-/

namespace Shroud.Engine

variable {e : Engine}

/-- **Behind the checks**, unpadding decides alone. -/
theorem decrypted_of_admitted {settings : Settings} {scheme : Scheme} {envelope : Envelope}
    (hoid : envelope.algorithm.algorithm = .text scheme.oid)
    (hlength : 0 < envelope.data.length ∧ 8 ∣ envelope.data.length) {p : Parameters}
    (hparameters : Parameters.decode envelope.algorithm.parameters (some settings.maxIterations) = .ok p)
    {password : Bytes} {cipher : BlockCipher} {vector : Block}
    (hmode : e.modeFor scheme.descriptor password p.salt p.iterations .decrypt
      = .ok ⟨cipher, Direction.decrypt.label, vector⟩) :
    e.decrypted settings password envelope
      = (Padding.unpad blockSize (Cbc.Standard.octets cipher .decrypt vector envelope.data)).1 := by
  have haligned : checkAligned envelope.data.length scheme.descriptor.blockSize = .ok () := by
    rw [Scheme.blockSize_descriptor]
    exact (checkAligned_eq_ok_iff _).mpr hlength
  obtain ⟨-, next, hcrypt⟩ := Mode.crypt_of_admitted cipher .decrypt vector hlength
  -- every step in front of unpadding has its result
  rw [decrypted, hoid, Descriptor.ofAlgorithm_oid, AlgorithmId.derivationParameters, hparameters]
  simp only [bind, Except.bind, haligned, hmode, Mode.result, hcrypt]
  rfl

/-- **Admitted envelopes fail only with their padding**, whatever the password is. What comes out is what
chaining leaves in front of one to eight octets that say their own number, so it is shorter than the
ciphertext by as many; if chaining leaves no such octets, the failure is that of padding. -/
theorem decrypt_of_admitted (hfunction : e.function = Derivation.derive) {settings : Settings}
    {session : Session} (hsettings : (e.settingsIn session).1 = .ok settings) {scheme : Scheme}
    {envelope : Envelope} (hoid : envelope.algorithm.algorithm = .text scheme.oid)
    (hlength : 0 < envelope.data.length ∧ 8 ∣ envelope.data.length) {p : Parameters}
    (hparameters : Parameters.decode envelope.algorithm.parameters (some settings.maxIterations) = .ok p)
    {password : Bytes} {given : Secret} (hgiven : given.octets? = some password) :
    ((∃ plaintext, (e.decrypt (some envelope)).result (.offering given session) = .ok plaintext
        ∧ envelope.data.length - 8 ≤ plaintext.length ∧ plaintext.length ≤ envelope.data.length - 1)
      ∨ (e.decrypt (some envelope)).result (.offering given session) = .error .padding)
    ∧ ∃ cipher vector, scheme.Derives p.salt password p.iterations cipher vector
      ∧ ∀ plaintext, (e.decrypt (some envelope)).result (.offering given session) = .ok plaintext
        ↔ ∃ k : UInt8, 1 ≤ k.toNat ∧ k.toNat ≤ 8
          ∧ Cbc.Standard.octets cipher .decrypt vector envelope.data
            = plaintext ++ List.replicate k.toNat k := by
  have hpos := (Parameters.iterations_of_decode_eq_ok hparameters).1
  obtain ⟨cipher, vector, hderives, hmode⟩ := exists_modeFor hfunction scheme password p.salt hpos
  -- a mode under any key and vector takes whole blocks, so only unpadding can fail
  have hlen := (Mode.crypt_of_admitted cipher .decrypt vector hlength).1
  rw [e.result_decrypt (.of_octets? hgiven session) hsettings,
    decrypted_of_admitted hoid hlength hparameters (hmode .decrypt)]
  refine ⟨?_, cipher, vector, hderives, fun plaintext => ?_⟩
  · -- the ciphertext has octets in it, and so does what came out of the mode
    have hsome : Cbc.Standard.octets cipher .decrypt vector envelope.data ≠ [] :=
      List.ne_nil_of_length_pos (by omega)
    obtain ⟨plaintext, hplaintext⟩ | hpadding := Padding.unpad_cases blockSize hsome
    · have hbounds := Padding.length_of_strip?_eq_some ((Padding.unpad_eq_ok_iff ..).mp hplaintext)
      rw [hlen] at hbounds
      have hblock : ((blockSize : Nat) : Int) = 8 := rfl
      exact .inl ⟨plaintext, hplaintext, by omega, by omega⟩
    · exact .inr hpadding
  · -- the two differ in the integers that the block size is compared in
    rw [Padding.unpad_eq_ok_iff, Padding.strip?_eq_some_iff]
    exact exists_congr fun k => and_congr_right fun _ => and_congr_left fun _ => Int.ofNat_le

/-- One block of zeros, under a salt and a count whose encoding is longer than it has to be. -/
def zeroBlock : Envelope where
  algorithm := ⟨.text Scheme.rc2.oid, [0x30, 0x81, 0x06, 0x04, 0x01, 0xff, 0x02, 0x01, 0x01]⟩
  data := List.replicate 8 0

/-- Under one password, the block gives at most seven octets, or the failure of padding. -/
theorem decrypt_of_admitted_zero_block :
    (∃ plaintext, ((withSettings {}).decrypt (some zeroBlock)).result (.offering (.view [0, 0x61]) {})
        = .ok plaintext ∧ plaintext.length ≤ 7)
      ∨ ((withSettings {}).decrypt (some zeroBlock)).result (.offering (.view [0, 0x61]) {})
        = .error .padding := by
  have hsettings : ((withSettings {}).settingsIn {}).1 = .ok {} := rfl
  have hoid : zeroBlock.algorithm.algorithm = .text Scheme.rc2.oid := rfl
  have hlength : 0 < zeroBlock.data.length ∧ 8 ∣ zeroBlock.data.length := by decide
  -- the length takes an octet more than it has to, which is read all the same
  have hparameters : Parameters.decode zeroBlock.algorithm.parameters
      (some ({} : Settings).maxIterations) = .ok ⟨[0xff], 1⟩ := rfl
  have hgiven : (Secret.view [0, 0x61]).octets? = some [0, 0x61] := rfl
  obtain ⟨⟨plaintext, hplaintext, -, hle⟩ | hpadding, -⟩ :=
    decrypt_of_admitted rfl hsettings hoid hlength hparameters hgiven
  · exact .inl ⟨plaintext, hplaintext, hle⟩
  · exact .inr hpadding

end Shroud.Engine
