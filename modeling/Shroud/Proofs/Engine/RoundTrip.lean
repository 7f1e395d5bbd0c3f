import Shroud.Proofs.Engine.Material
import Shroud.Proofs.Parameters

/-!
# Decrypting undoes encrypting

An envelope decrypts to a message exactly if its ciphertext is what encrypting the message under its
parameters gives (`Engine.decrypt_eq_ok_iff_encrypt_eq_ok`). So every message comes back, and no ciphertext is
accepted that encrypting could not have made. Four facts meet in it: the parameters are read back, the mode
for decrypting is the one for encrypting reversed, a mode and its reverse are one relation, and only one
buffer of whole blocks is padded for each message.

An envelope that the engine made itself is a special case, but only as long as its count is within the
ceiling. Nothing ties the two together when it is made, neither for a count that was asked for nor for the
default of the settings, so that `Engine.decrypt_encryptEnvelope` has both cases: the message, or the failure
that names the count and the ceiling.
-/

namespace Shroud

namespace Engine

variable (e : Engine)

/-! ### The two directions of a mode -/

/-- The cipher of a scheme undoes itself. -/
theorem newCipher_lawful {s : Scheme} {key : Bytes} {cipher : Cipher} (h : s.newCipher key = .ok cipher) :
    cipher.Lawful := by
  rw [Scheme.newCipher_eq_make] at h
  exact Cipher.make_lawful h

/-- **The mode for decrypting is the mode for encrypting, reversed**: the same key and the same vector are
derived for both. -/
theorem modeFor_decrypt (d : Descriptor) (password salt : Bytes) (iterations : Int) :
    e.modeFor d password salt iterations .decrypt
      = Mode.reversed <$> e.modeFor d password salt iterations .encrypt := by
  unfold modeFor modeUnder
  -- the direction is not looked at before the mode is opened, so a failure is the same in both
  cases d.deriveKey e.function salt password iterations with
  | error failure => rfl
  | ok key =>
    cases d.deriveIv e.function salt password iterations with
    | error failure => rfl
    | ok iv =>
      cases hcipher : d.scheme.newCipher key with
      | error failure => simp [hcipher, bind, Except.bind, Functor.map, Except.map]
      | ok cipher =>
        simp only [hcipher, bind, Except.bind]
        exact cipher.openMode_decrypt iv

/-- A mode for encryption is one of its cipher, with its label. -/
theorem modeFor_encrypt_eq_ok {d : Descriptor} {password salt : Bytes} {iterations : Int} {m : Mode}
    (h : e.modeFor d password salt iterations .encrypt = .ok m) :
    m.cipher.Lawful ∧ m.label = "encrypt" := by
  obtain ⟨key, -, h⟩ := bind_eq_ok_iff.mp h
  obtain ⟨iv, -, h⟩ := bind_eq_ok_iff.mp h
  obtain ⟨cipher, hcipher, h⟩ := bind_eq_ok_iff.mp h
  exact ⟨Cipher.openMode_lawful (newCipher_lawful hcipher) h, (Cipher.openMode_eq_ok_iff.mp h).2.2⟩

/-! ### Messages -/

/-- **Through a mode and back.** -/
theorem reversed_unpad_eq_ok_iff {m : Mode} (hlawful : m.cipher.Lawful) (hlabel : m.label = "encrypt")
    (message data : Bytes) :
    (m.reversed.result data >>= fun padded => (Padding.unpad blockSize padded).1) = .ok message
      ↔ m.result (Padding.pad blockSize message) = .ok data := by
  -- a mode admits whole blocks only, and for these unpadding knows one padded buffer a message
  have hunpad : ∀ {padded : Bytes}, 8 ∣ padded.length →
      ((Padding.unpad blockSize padded).1 = .ok message ↔ padded = Padding.pad blockSize message) := by
    intro padded haligned
    rw [Padding.unpad_eq_ok_iff]
    exact Padding.strip?_eq_some_iff_pad (by decide) (by decide) haligned message
  rw [bind_eq_ok_iff]
  constructor
  · rintro ⟨padded, hpadded, hmessage⟩
    have hforth := (Mode.encrypts_iff_decrypts hlawful hlabel padded data).mpr hpadded
    have haligned := ((m.result_eq_ok_iff padded data).mp hforth).1.2
    rwa [← (hunpad haligned).mp hmessage]
  · intro hdata
    have haligned := ((m.result_eq_ok_iff _ data).mp hdata).1.2
    exact ⟨_, (Mode.encrypts_iff_decrypts hlawful hlabel _ data).mp hdata, (hunpad haligned).mpr rfl⟩

/-- The envelope of a scheme that holds parameters and data. -/
def envelopeOf (scheme : Scheme) (salt : Bytes) (iterations : Int) (data : Bytes) : Envelope :=
  ⟨⟨.text scheme.oid, Parameters.encode ⟨salt, iterations⟩⟩, data⟩

/-- **What decrypting does with an envelope whose parameters were encoded.** The length comes before the count,
the count before the derivation. -/
theorem decrypted_envelopeOf (settings : Settings) (password : Bytes) (scheme : Scheme) {salt : Bytes}
    {iterations : Int} (hfits : Parameters.Fits ⟨salt, iterations⟩) (data : Bytes) :
    e.decrypted settings password (envelopeOf scheme salt iterations data) = (do
      checkAligned data.length blockSize
      let p ← Parameters.check ⟨salt, iterations⟩ (some settings.maxIterations)
      let mode ← e.modeFor scheme.descriptor password p.salt p.iterations .encrypt
      let padded ← mode.reversed.result data
      (Padding.unpad blockSize padded).1) := by
  unfold decrypted envelopeOf AlgorithmId.derivationParameters
  rw [Descriptor.ofAlgorithm_oid, Parameters.decode_encode hfits]
  simp only [modeFor_decrypt, bind_map_left]
  rw [← scheme.blockSize_descriptor]
  rfl

/-- What was encrypted passes the check of its length. -/
theorem checkAligned_of_encrypted {d : Descriptor} {password message salt data : Bytes} {iterations : Int}
    (h : e.encrypted d password message salt iterations = .ok data) :
    checkAligned data.length blockSize = .ok () := by
  obtain ⟨m, -, hdata⟩ := bind_eq_ok_iff.mp h
  have hpadded := ((m.result_eq_ok_iff _ data).mp hdata).1
  rw [checkAligned_eq_ok_iff, Mode.length_of_result_eq_ok hdata]
  exact hpadded

/-- **Decrypting inverts encrypting in both directions**, for any octets as the password. -/
theorem decrypted_eq_ok_iff {settings : Settings} {iterations : Int} (hpos : 1 ≤ iterations)
    (hle : iterations ≤ settings.maxIterations) (password : Bytes) (scheme : Scheme) {salt : Bytes}
    (hfits : Parameters.Fits ⟨salt, iterations⟩) (message data : Bytes) :
    e.decrypted settings password (envelopeOf scheme salt iterations data) = .ok message
      ↔ e.encrypted scheme.descriptor password message salt iterations = .ok data := by
  rw [decrypted_envelopeOf e settings password scheme hfits data, Parameters.check_of_le hpos hle]
  constructor
  · intro h
    -- whatever decrypts got past both checks and has a mode
    obtain ⟨-, -, h⟩ := bind_eq_ok_iff.mp h
    obtain ⟨p, hp, h⟩ := bind_eq_ok_iff.mp h
    obtain rfl := Except.ok.inj hp
    obtain ⟨m, hm, h⟩ := bind_eq_ok_iff.mp h
    obtain ⟨hlawful, hlabel⟩ := e.modeFor_encrypt_eq_ok hm
    exact bind_eq_ok_iff.mpr ⟨m, hm, (reversed_unpad_eq_ok_iff hlawful hlabel message data).mp h⟩
  · intro h
    obtain ⟨m, hm, hdata⟩ := bind_eq_ok_iff.mp h
    obtain ⟨hlawful, hlabel⟩ := e.modeFor_encrypt_eq_ok hm
    have hmessage := (reversed_unpad_eq_ok_iff hlawful hlabel message data).mpr hdata
    -- ciphertext that was made passes the check of its length
    refine bind_eq_ok_iff.mpr ⟨(), e.checkAligned_of_encrypted h, ?_⟩
    refine bind_eq_ok_iff.mpr ⟨_, rfl, ?_⟩
    exact bind_eq_ok_iff.mpr ⟨m, hm, hmessage⟩

/-- **Decrypting is the exact inverse of encrypting.** Under the same octets as the password, however they are
handed over, the envelope decrypts to the message exactly if encrypting the message gives the ciphertext. The
count has to be positive and within the ceiling, and the parameters must have an encoding. -/
theorem decrypt_eq_ok_iff_encrypt_eq_ok {settings : Settings} {session : Session}
    (hsettings : (e.settingsIn session).1 = .ok settings) {password : Bytes} {given given' : Secret}
    (hgiven : given.octets? = some password) (hgiven' : given'.octets? = some password)
    {scheme : Scheme} {asked : Value} (hasked : Descriptor.ofScheme asked = .ok scheme.descriptor)
    {salt : Bytes} {iterations : Int} (hpos : 1 ≤ iterations) (hle : iterations ≤ settings.maxIterations)
    (hfits : Parameters.Fits ⟨salt, iterations⟩) (message data : Bytes) (session' : Session) :
    (e.decrypt (some (envelopeOf scheme salt iterations data))).result (.offering given session)
        = .ok message
      ↔ (e.encrypt asked (some message) salt iterations).result (.offering given' session') = .ok data := by
  rw [e.result_decrypt (.of_octets? hgiven session) hsettings,
    e.result_encrypt (.of_octets? hgiven' session'), hasked]
  exact e.decrypted_eq_ok_iff hpos hle password scheme hfits message data


/-- A message of three octets comes back, under a password that was handed over once as a buffer and once as
immutable octets. -/
theorem decrypt_eq_ok_iff_encrypt_eq_ok_three_octets :
    ∃ data,
      ((withSettings {}).encrypt (.text Scheme.rc2.name) (some [1, 2, 3]) [0xff] 1).result
          (.offering (.buffer [0, 0x61]) {}) = .ok data
      ∧ ((withSettings {}).decrypt (some (envelopeOf .rc2 [0xff] 1 data))).result
          (.offering (.octets [0, 0x61]) {}) = .ok [1, 2, 3] := by
  obtain ⟨data, hdata⟩ := exists_encrypted (e := withSettings {}) rfl .rc2 [0, 0x61] [1, 2, 3] [0xff]
    (by decide : (1 : Int) ≤ 1)
  have hencrypt := (result_encrypt (withSettings {}) (.of_octets? (s := .buffer [0, 0x61]) rfl {})
    (.text Scheme.rc2.name) [1, 2, 3] [0xff] 1).trans hdata
  have hsettings : ((withSettings {}).settingsIn {}).1 = .ok {} := rfl
  refine ⟨data, hencrypt, ?_⟩
  exact (decrypt_eq_ok_iff_encrypt_eq_ok _ hsettings rfl rfl rfl (by decide) (by decide) (by decide)
    _ _ _).mpr hencrypt

/-! ### Envelopes that the engine made -/

/-- **What the engine makes of its own envelopes.** Within the ceiling the message comes back. A count above
the ceiling, whether asked for or the default, is written and then refused. -/
theorem decrypt_encryptEnvelope (hfunction : e.function = Derivation.derive) {settings : Settings}
    {session session' : Session} (hsettings : (e.settingsIn session).1 = .ok settings)
    (hsettings' : (e.settingsIn session').1 = .ok settings) {password : Bytes} {given given' : Secret}
    (hgiven : given.octets? = some password) (hgiven' : given'.octets? = some password)
    {message : Bytes} {scheme : Value} {iterations : Option Int} {salt : Option Bytes}
    {envelope : Envelope}
    (hmade : (e.encryptEnvelope (some message) scheme iterations salt).result (.offering given session)
      = .ok envelope)
    (hfits : envelope.algorithm.parameters.length < Ber.Der.lengthBound) :
    (e.decrypt (some envelope)).result (.offering given' session')
      = if iterations.getD settings.defaultIterations ≤ settings.maxIterations then .ok message
        else .error (Failure.parameters
          (.overLimit (iterations.getD settings.defaultIterations) settings.maxIterations)).checked := by
  obtain ⟨used, -, hresult⟩ := e.result_encryptEnvelope (.of_octets? hgiven session) hsettings message
    scheme iterations salt
  rw [hresult] at hmade
  obtain ⟨d, hd, hmade⟩ := bind_eq_ok_iff.mp hmade
  obtain ⟨s, rfl⟩ := Descriptor.ofScheme_eq_ok hd
  obtain ⟨data, hdata, hmade⟩ := bind_eq_ok_iff.mp hmade
  obtain rfl := Except.ok.inj hmade
  have hpos := one_le_of_encrypted hfunction hdata
  rw [e.result_decrypt (.of_octets? hgiven' session') hsettings', Scheme.oid_descriptor]
  -- what was written has a positive count, so only the ceiling decides
  split
  · next hle => exact (e.decrypted_eq_ok_iff hpos hle password s hfits message data).mpr hdata
  · next hover =>
    refine (e.decrypted_envelopeOf settings password s hfits data).trans ?_
    rw [e.checkAligned_of_encrypted hdata, Parameters.check_of_lt hpos (not_le.mp hover)]
    rfl

/-- Settings whose default count is above their own ceiling. -/
def lowCeiling : Settings where
  defaultIterations := 20
  maxIterations := 10

/-- An envelope is made with the default of 20 iterations, and the same engine refuses it. -/
theorem decrypt_encryptEnvelope_low_ceiling :
    ∃ envelope,
      ((withSettings lowCeiling).encryptEnvelope (some [1, 2, 3]) .null none (some [0xff])).result
          (.offering (.octets []) {}) = .ok envelope
      ∧ ((withSettings lowCeiling).decrypt (some envelope)).result (.offering (.octets []) {})
        = .error (Failure.parameters (.overLimit 20 10)).checked := by
  have hsettings : ((withSettings lowCeiling).settingsIn {}).1 = .ok lowCeiling := rfl
  have hfits : (Parameters.encode ⟨[0xff], 20⟩).length < Ber.Der.lengthBound := by decide
  obtain ⟨used, hused, hresult⟩ := result_encryptEnvelope _ (.of_octets? (s := .octets []) rfl {})
    hsettings [1, 2, 3] .null none (some [0xff])
  obtain rfl := hused _ rfl
  obtain ⟨data, hdata⟩ := exists_encrypted (e := withSettings lowCeiling) rfl .tripleDes [] [1, 2, 3]
    [0xff] (by decide : (1 : Int) ≤ 20)
  -- the count of the settings is written down, and it is above their own ceiling
  have hmade := hresult.trans (bind_eq_ok_iff.mpr
    ⟨_, rfl, bind_eq_ok_iff.mpr ⟨data, hdata, rfl⟩⟩)
  refine ⟨_, hmade, ?_⟩
  exact (decrypt_encryptEnvelope _ rfl hsettings hsettings rfl rfl hmade hfits).trans
    (if_neg (by decide))

end Engine

end Shroud
