import Shroud.Proofs.Engine.RoundTrip
import Shroud.Proofs.Engine.Trace

/-!
# Logs and failures keep secrets

Two runs are compared that may differ in everything secret. Their logs go on alike (`Journal.Alike`): the same
setup, the same clock and identifiers, whatever lines they hold already.

* Of encrypting only the scheme, the count and the length of the message are told (`Engine.outcome`): whether
  it succeeds, with which length, and with which failure if not. Its lines are made of these and no others.
* Of decrypting the lines tell the algorithm and the way it ended, and nothing that came in between.

`Engine.log_lines_independent_of_secrets` puts the two together. Where decrypting gets as far as the padding
(`Engine.Unveils`) there is one way to fail, so that two calls with wrong padding cannot be told apart at all,
neither by their failure nor by their lines (`Engine.wrong_padding_indistinguishable`).
-/

namespace Shroud

namespace Padding

/-- **Wrong padding**: the octets do not end in as many equal octets as each of them says, at most a block. -/
def Wrong (blockSize : Nat) (padded : Bytes) : Prop :=
  ∀ (plaintext : Bytes) (k : UInt8), 1 ≤ k.toNat → k.toNat ≤ blockSize →
    padded ≠ plaintext ++ List.replicate k.toNat k

/-- Padding is wrong if nothing can be stripped. -/
theorem wrong_iff {blockSize : Nat} {padded : Bytes} :
    Wrong blockSize padded ↔ strip? blockSize padded = none := by
  rw [Option.eq_none_iff_forall_ne_some]
  constructor
  · intro h plaintext hplaintext
    obtain ⟨k, hpos, hle, heq⟩ := (strip?_eq_some_iff blockSize padded plaintext).mp hplaintext
    exact h plaintext k hpos (Int.ofNat_le.mp hle) heq
  · intro h plaintext k hpos hle heq
    exact h plaintext ((strip?_eq_some_iff blockSize padded plaintext).mpr
      ⟨k, hpos, Int.ofNat_le.mpr hle, heq⟩)

/-- Wrong padding has one failure. -/
theorem unpad_of_wrong {blockSize : Nat} {padded : Bytes} (hsome : padded ≠ [])
    (h : Wrong blockSize padded) : (unpad blockSize padded).1 = .error .padding := by
  obtain ⟨plaintext, hplaintext⟩ | hpadding := unpad_cases blockSize hsome
  · rw [unpad_eq_ok_iff, wrong_iff.mp h] at hplaintext
    exact absurd hplaintext (by simp)
  · exact hpadding

end Padding

namespace Engine

variable {e e' : Engine} {c c' : Call} {password password' : Bytes}

open Journal (Alike)

/-- **Two operations write the same lines**, each in a call of its own. -/
def SameLines {α β : Type} (e : Engine) (x : Op α) (c : Call) (e' : Engine) (y : Op β) (c' : Call) : Prop :=
  Journal.SameLines e.around c.session.journal (x c).2.session.journal
    e'.around c'.session.journal (y c').2.session.journal

/-! ### Encrypting -/

/-- **What may be told of encrypting a message**: the length of the ciphertext, or the failure. -/
def outcome (scheme : Value) (iterations : Int) (length : Nat) : Except Failure Nat := do
  let _ ← Descriptor.ofScheme scheme
  if 1 ≤ iterations then .ok (blockSize * (length / blockSize + 1))
  else .error (Failure.derivation (.iterations iterations)).checked

/-- **Encrypting tells no more than its outcome**, whatever the password, the salt and the octets of the
message are. -/
theorem map_length_result_encrypt (hfunction : e.function = Derivation.derive) (hc : c.Holds password)
    (scheme : Value) (message salt : Bytes) (iterations : Int) :
    ((e.encrypt scheme (some message) salt iterations).result c).map List.length
      = outcome scheme iterations message.length := by
  rw [e.result_encrypt hc, outcome]
  -- the scheme, the count and the length of the message decide it between them
  cases hfound : Descriptor.ofScheme scheme with
  | error failure => rfl
  | ok d =>
    obtain ⟨s, rfl⟩ := Descriptor.ofScheme_eq_ok hfound
    change Except.map List.length (e.encrypted s.descriptor password message salt iterations)
      = if 1 ≤ iterations then _ else _
    by_cases hpos : 1 ≤ iterations
    · -- a message that can be encrypted is as long as it is padded
      obtain ⟨data, hdata⟩ := exists_encrypted hfunction s password message salt hpos
      obtain ⟨mode, -, hresult⟩ := bind_eq_ok_iff.mp hdata
      rw [if_pos hpos, hdata, Except.map, Mode.length_of_result_eq_ok hresult,
        Padding.length_pad (by decide)]
    · rw [if_neg hpos, encrypted, modeFor_of_refused hfunction (.count (.inl s.digest_descriptor) (not_le.mp hpos))]
      rfl

/-- Encryptions of messages of one length write the same lines. -/
theorem sameLines_encrypt (hfunction : e.function = Derivation.derive)
    (hfunction' : e'.function = Derivation.derive)
    (halike : Alike e.around c.session.journal e'.around c'.session.journal) (hc : c.Holds password)
    (hc' : c'.Holds password') (scheme : Value) (iterations : Int) {message message' : Bytes}
    (hlength : message.length = message'.length) (salt salt' : Bytes) :
    e.SameLines (e.encrypt scheme (some message) salt iterations) c
      e' (e'.encrypt scheme (some message') salt' iterations) c' := by
  have htold := map_length_result_encrypt hfunction hc scheme message salt iterations
  have htold' := map_length_result_encrypt hfunction' hc' scheme message' salt' iterations
  rw [SameLines, journal_encrypt hc, journal_encrypt hc', ← endingOf_map List.length,
    ← endingOf_map List.length, htold, htold', hlength]
  exact halike.sameLines_operated ..

/-- Under the same settings so do encryptions into an envelope. -/
theorem sameLines_encryptEnvelope (hfunction : e.function = Derivation.derive)
    (hfunction' : e'.function = Derivation.derive)
    (halike : Alike e.around c.session.journal e'.around c'.session.journal) (hc : c.Holds password)
    (hc' : c'.Holds password') (hsettings : (e.settingsIn c.session).1 = (e'.settingsIn c'.session).1)
    (scheme : Value) (iterations : Option Int) {message message' : Bytes}
    (hlength : message.length = message'.length) (salt salt' : Option Bytes) :
    e.SameLines (e.encryptEnvelope (some message) scheme iterations salt) c
      e' (e'.encryptEnvelope (some message') scheme iterations salt') c' := by
  unfold SameLines
  cases hread : (e.settingsIn c.session).1 with
  | error failure =>
    -- nothing is noted in front of the settings
    rw [journal_encryptEnvelope_of_settings hread,
      journal_encryptEnvelope_of_settings (hsettings.symm.trans hread)]
    exact halike.sameLines_noteAll logger []
  | ok settings =>
    have hread' := hsettings.symm.trans hread
    cases hfound : Descriptor.ofScheme (schemeOrDefault settings scheme) with
    | error failure =>
      rw [journal_encryptEnvelope_of_error hc hread hfound, journal_encryptEnvelope_of_error hc' hread' hfound]
      exact halike.sameLines_noteAll ..
    | ok d =>
      obtain ⟨used, k, hk, hjournal, hencrypt⟩ :=
        exists_encrypt_of_encryptEnvelope hc hread hfound (some message) iterations salt
      obtain ⟨used', k', hk', hjournal', hencrypt'⟩ :=
        exists_encrypt_of_encryptEnvelope hc' hread' hfound (some message') iterations salt'
      rw [← hjournal, ← hjournal'] at halike
      rw [hencrypt, hencrypt', ← hjournal, ← hjournal']
      exact sameLines_encrypt hfunction hfunction' halike hk hk' (.scheme d.scheme) _ hlength used used'

/-! ### Decrypting -/

/-- Decryptions that end alike write the same lines. -/
theorem sameLines_decrypt (halike : Alike e.around c.session.journal e'.around c'.session.journal)
    (hc : c.Holds password) (hc' : c'.Holds password') {envelope envelope' : Envelope}
    (hwarnings : warnings "Unsupported PBE algorithm" "algorithm"
        (Descriptor.ofAlgorithm envelope.algorithm.algorithm)
      = warnings "Unsupported PBE algorithm" "algorithm"
        (Descriptor.ofAlgorithm envelope'.algorithm.algorithm))
    (hending : endingOf ((e.decrypt (some envelope)).result c)
      = endingOf ((e'.decrypt (some envelope')).result c')) :
    e.SameLines (e.decrypt (some envelope)) c e' (e'.decrypt (some envelope')) c' := by
  rw [SameLines, journal_decrypt hc, journal_decrypt hc', hwarnings, hending]
  exact halike.sameLines_operated ..

/-- **Log lines do not depend on secrets.** Two runs whose logs go on alike write the same lines

* when they encrypt messages of one length under one scheme and count, whatever the passwords, the octets of the
  messages and the salts are;
* when they do so into envelopes under the same settings, with what is not given filled in or drawn;
* when they decrypt envelopes of one algorithm and end in the same way, whatever the passwords, the parameters
  and the ciphertexts are. -/
theorem log_lines_independent_of_secrets (hfunction : e.function = Derivation.derive)
    (hfunction' : e'.function = Derivation.derive) {session session' : Session}
    (halike : Alike e.around session.journal e'.around session'.journal) {given given' : Secret}
    (hgiven : given.octets? = some password) (hgiven' : given'.octets? = some password') :
    (∀ (scheme : Value) (iterations : Int) (message message' salt salt' : Bytes),
      message.length = message'.length →
      e.SameLines (e.encrypt scheme (some message) salt iterations) (.offering given session)
        e' (e'.encrypt scheme (some message') salt' iterations) (.offering given' session'))
    ∧ (∀ (scheme : Value) (iterations : Option Int) (message message' : Bytes) (salt salt' : Option Bytes),
      message.length = message'.length → (e.settingsIn session).1 = (e'.settingsIn session').1 →
      e.SameLines (e.encryptEnvelope (some message) scheme iterations salt) (.offering given session)
        e' (e'.encryptEnvelope (some message') scheme iterations salt') (.offering given' session'))
    ∧ ∀ envelope envelope' : Envelope,
      envelope.algorithm.algorithm = envelope'.algorithm.algorithm →
      endingOf ((e.decrypt (some envelope)).result (.offering given session))
        = endingOf ((e'.decrypt (some envelope')).result (.offering given' session')) →
      e.SameLines (e.decrypt (some envelope)) (.offering given session)
        e' (e'.decrypt (some envelope')) (.offering given' session') := by
  have hc := Call.Holds.of_octets? hgiven session
  have hc' := Call.Holds.of_octets? hgiven' session'
  -- both kinds of encryption by their lengths, and decryption by how it ended
  refine ⟨?_, ?_, ?_⟩
  · intro scheme iterations message message' salt salt' hlength
    exact sameLines_encrypt hfunction hfunction' halike hc hc' scheme iterations hlength salt salt'
  · intro scheme iterations message message' salt salt' hlength hsettings
    exact sameLines_encryptEnvelope hfunction hfunction' halike hc hc' hsettings scheme iterations hlength
      salt salt'
  · intro envelope envelope' halgorithm hending
    exact sameLines_decrypt halike hc hc' (by rw [halgorithm]) hending

/-- A log that is set up for everything, in both formats. -/
def loggedSession : Session where
  journal := { setup := some ⟨Severity.debug.number, [.json, .human], false⟩ }

/-- Messages of three octets under passwords of different kinds and lengths, one salt given and one drawn, and
two envelopes of an algorithm that is not supported. -/
theorem log_lines_independent_of_secrets_three_runs :
    SameLines (withSettings {})
        ((withSettings {}).encrypt (.text Scheme.rc2.name) (some [1, 2, 3]) [0xff] 1)
        (.offering (.buffer [0, 0x61]) loggedSession)
      (withSettings {}) ((withSettings {}).encrypt (.text Scheme.rc2.name) (some [4, 5, 6]) [] 1)
        (.offering (.octets []) loggedSession)
    ∧ SameLines (withSettings {}) ((withSettings {}).encryptEnvelope (some [1, 2, 3]) .null none none)
        (.offering (.buffer [0, 0x61]) loggedSession)
      (withSettings {}) ((withSettings {}).encryptEnvelope (some [4, 5, 6]) .null none (some [0xff]))
        (.offering (.octets []) loggedSession)
    ∧ SameLines (withSettings {}) ((withSettings {}).decrypt (some ⟨⟨.text "1.2.3", [0x30]⟩, [7]⟩))
        (.offering (.buffer [0, 0x61]) loggedSession)
      (withSettings {}) ((withSettings {}).decrypt (some ⟨⟨.text "1.2.3", []⟩, []⟩))
        (.offering (.octets []) loggedSession) := by
  have halike : Alike (withSettings {}).around loggedSession.journal (withSettings {}).around
      loggedSession.journal := ⟨rfl, rfl, fun _ => rfl, fun _ => rfl, rfl, rfl⟩
  have hsettings : ((withSettings {}).settingsIn loggedSession).1 = .ok {} := rfl
  have hfunction : (withSettings {}).function = Derivation.derive := rfl
  have hgiven : (Secret.buffer [0, 0x61]).octets? = some [0, 0x61] := rfl
  have hgiven' : (Secret.octets []).octets? = some [] := rfl
  obtain ⟨hencrypt, hencryptEnvelope, hdecrypt⟩ :=
    log_lines_independent_of_secrets hfunction hfunction halike hgiven hgiven'
  refine ⟨hencrypt _ _ _ _ _ _ rfl, hencryptEnvelope _ _ _ _ _ _ rfl rfl, hdecrypt _ _ rfl ?_⟩
  -- both end with the failure that names the algorithm
  rw [result_decrypt _ (.of_octets? rfl loggedSession) hsettings,
    result_decrypt _ (.of_octets? rfl loggedSession) hsettings]
  rfl

/-! ### Wrong padding -/

/-- What an envelope holds under a password, before anyone looks at the padding. -/
def unveiled (e : Engine) (settings : Settings) (password : Bytes) (envelope : Envelope) :
    Except Failure Bytes := do
  let d ← Descriptor.ofAlgorithm envelope.algorithm.algorithm
  checkAligned envelope.data.length d.blockSize
  let p ← envelope.algorithm.derivationParameters (some settings.maxIterations)
  let mode ← e.modeFor d password p.salt p.iterations .decrypt
  mode.result envelope.data

/-- The payload is decrypted first, and then the padding is taken off. -/
theorem decrypted_eq_unveiled_bind (settings : Settings) (envelope : Envelope) :
    e.decrypted settings password envelope
      = e.unveiled settings password envelope >>= fun padded => (Padding.unpad blockSize padded).1 := by
  simp only [decrypted, unveiled, bind_assoc]

/-- **A call of decrypting that gets as far as the padding**: the password is one, every check is passed, and
the octets that are there to be unpadded are these. -/
def Unveils (e : Engine) (envelope : Envelope) (c : Call) (padded : Bytes) : Prop :=
  ∃ settings password, (e.settingsIn c.session).1 = .ok settings ∧ c.Holds password
    ∧ e.unveiled settings password envelope = .ok padded

namespace Unveils

variable {envelope : Envelope} {padded : Bytes}

/-- An envelope that can be unveiled has a registered identifier. -/
theorem exists_ofAlgorithm (h : e.Unveils envelope c padded) :
    ∃ d, Descriptor.ofAlgorithm envelope.algorithm.algorithm = .ok d := by
  obtain ⟨settings, password, -, -, hpadded⟩ := h
  obtain ⟨d, hfound, -⟩ := bind_eq_ok_iff.mp hpadded
  exact ⟨d, hfound⟩

theorem ne_nil (h : e.Unveils envelope c padded) : padded ≠ [] := by
  obtain ⟨settings, password, -, -, hpadded⟩ := h
  obtain ⟨d, -, hpadded⟩ := bind_eq_ok_iff.mp hpadded
  obtain ⟨-, -, hpadded⟩ := bind_eq_ok_iff.mp hpadded
  obtain ⟨p, -, hpadded⟩ := bind_eq_ok_iff.mp hpadded
  obtain ⟨mode, -, hpadded⟩ := bind_eq_ok_iff.mp hpadded
  -- a mode gives as many octets as it admits, and it admits no empty data
  have hlength := Mode.length_of_result_eq_ok hpadded
  obtain ⟨⟨hpos, -⟩, -⟩ := (mode.result_eq_ok_iff _ _).mp hpadded
  exact List.ne_nil_of_length_pos (by omega)

/-- **With wrong padding the decryption fails, and only as that.** -/
theorem result_decrypt_of_wrong (h : e.Unveils envelope c padded) (hwrong : Padding.Wrong blockSize padded) :
    (e.decrypt (some envelope)).result c = .error .padding := by
  have hsome := h.ne_nil
  obtain ⟨settings, password, hsettings, hc, hpadded⟩ := h
  rw [e.result_decrypt hc hsettings, decrypted_eq_unveiled_bind, hpadded]
  exact Padding.unpad_of_wrong hsome hwrong

end Unveils

/-- **Whoever knows the password can make an envelope hold any octets** of whole blocks, padded or not. -/
theorem exists_unveils (hfunction : e.function = Derivation.derive) {settings : Settings} {session : Session}
    (hsettings : (e.settingsIn session).1 = .ok settings) {given : Secret}
    (hgiven : given.octets? = some password) (s : Scheme) {salt : Bytes} {iterations : Int}
    (hpos : 1 ≤ iterations) (hle : iterations ≤ settings.maxIterations)
    (hfits : Parameters.Fits ⟨salt, iterations⟩) {padded : Bytes}
    (haligned : 0 < padded.length ∧ 8 ∣ padded.length) :
    ∃ data, e.Unveils (envelopeOf s salt iterations data) (.offering given session) padded := by
  obtain ⟨cipher, vector, -, hmode⟩ := exists_modeFor hfunction s password salt hpos
  obtain ⟨hlawful, hlabel⟩ := e.modeFor_encrypt_eq_ok (hmode .encrypt)
  -- the data is what the encrypting mode makes of the octets, whatever they are
  obtain ⟨data, hdata⟩ :
      ∃ data, Mode.result ⟨cipher, Direction.encrypt.label, vector⟩ padded = .ok data :=
    ⟨_, (Mode.result_eq_ok_iff _ _ _).mpr ⟨haligned, rfl⟩⟩
  have hback := (Mode.encrypts_iff_decrypts hlawful hlabel padded data).mp hdata
  obtain ⟨hadmitted, -⟩ := (Mode.result_eq_ok_iff _ _ _).mp hback
  have hchecked : checkAligned data.length s.descriptor.blockSize = .ok () := by
    rw [Scheme.blockSize_descriptor]
    exact (checkAligned_eq_ok_iff _).mpr hadmitted
  have hparameters : Parameters.decode (Parameters.encode ⟨salt, iterations⟩) (some settings.maxIterations)
      = .ok ⟨salt, iterations⟩ := by
    rw [Parameters.decode_encode hfits, Parameters.check_of_le hpos hle]
  have hreversed : e.modeFor s.descriptor password salt iterations .decrypt
      = .ok (Mode.reversed ⟨cipher, Direction.encrypt.label, vector⟩) := by
    rw [modeFor_decrypt, hmode .encrypt]
    rfl
  refine ⟨data, settings, password, hsettings, .of_octets? hgiven session, ?_⟩
  refine bind_eq_ok_iff.mpr ⟨s.descriptor, Descriptor.ofAlgorithm_oid s, ?_⟩
  refine bind_eq_ok_iff.mpr ⟨(), hchecked, bind_eq_ok_iff.mpr ⟨⟨salt, iterations⟩, hparameters, ?_⟩⟩
  exact bind_eq_ok_iff.mpr ⟨_, hreversed, hback⟩

/-- **Wrong padding is indistinguishable.** Two calls that get as far as the padding and find it wrong, in
whatever way, fail with the same failure, and if their logs go on alike they write the same lines. The engines,
the settings, the schemes, the parameters, the ciphertexts and the passwords may all be different. -/
theorem wrong_padding_indistinguishable
    (halike : Alike e.around c.session.journal e'.around c'.session.journal)
    {envelope envelope' : Envelope} {padded padded' : Bytes} (h : e.Unveils envelope c padded)
    (h' : e'.Unveils envelope' c' padded') (hwrong : Padding.Wrong blockSize padded)
    (hwrong' : Padding.Wrong blockSize padded') :
    (e.decrypt (some envelope)).result c = .error .padding
    ∧ (e'.decrypt (some envelope')).result c' = .error .padding
    ∧ e.SameLines (e.decrypt (some envelope)) c e' (e'.decrypt (some envelope')) c' := by
  have hresult := h.result_decrypt_of_wrong hwrong
  have hresult' := h'.result_decrypt_of_wrong hwrong'
  obtain ⟨d, hfound⟩ := h.exists_ofAlgorithm
  obtain ⟨d', hfound'⟩ := h'.exists_ofAlgorithm
  -- both passwords are claimed, however long they are
  obtain ⟨settings, password, -, hc, -⟩ := h
  obtain ⟨settings', password', -, hc', -⟩ := h'
  refine ⟨hresult, hresult', sameLines_decrypt halike hc hc' ?_ ?_⟩
  · -- both algorithms are supported, so there is no warning that could name them
    rw [hfound, hfound']
    rfl
  · rw [hresult, hresult']

/-- One block of zeros under triple DES, and two blocks of nines under RC2: no octet is zero padding, and nine
is more than a block. -/
theorem wrong_padding_indistinguishable_zeros_and_nines :
    ∃ envelope envelope',
      ((withSettings {}).decrypt (some envelope)).result (.offering (.buffer [0, 0]) loggedSession)
          = .error .padding
      ∧ ((withSettings lowCeiling).decrypt (some envelope')).result (.offering (.octets []) loggedSession)
          = .error .padding
      ∧ SameLines (withSettings {}) ((withSettings {}).decrypt (some envelope))
          (.offering (.buffer [0, 0]) loggedSession)
        (withSettings lowCeiling) ((withSettings lowCeiling).decrypt (some envelope'))
          (.offering (.octets []) loggedSession) := by
  have halike : Alike (withSettings {}).around loggedSession.journal (withSettings lowCeiling).around
      loggedSession.journal := ⟨rfl, rfl, fun _ => rfl, fun _ => rfl, rfl, rfl⟩
  have hsettings : ((withSettings {}).settingsIn loggedSession).1 = .ok {} := rfl
  have hsettings' : ((withSettings lowCeiling).settingsIn loggedSession).1 = .ok lowCeiling := rfl
  have hgiven : (Secret.buffer [0, 0]).octets? = some [0, 0] := rfl
  have hgiven' : (Secret.octets []).octets? = some [] := rfl
  -- any whole blocks are the payload of some ciphertext, wrong padding included
  obtain ⟨data, hdata⟩ := exists_unveils rfl hsettings hgiven .tripleDes (by decide : (1 : Int) ≤ 2048)
    (by decide) (by decide : Parameters.Fits ⟨[1, 2, 3, 4], 2048⟩)
    (by decide : 0 < (List.replicate 8 (0 : UInt8)).length ∧ 8 ∣ (List.replicate 8 (0 : UInt8)).length)
  obtain ⟨data', hdata'⟩ := exists_unveils rfl hsettings' hgiven' .rc2 (by decide : (1 : Int) ≤ 1)
    (by decide) (by decide : Parameters.Fits ⟨[], 1⟩)
    (by decide : 0 < (List.replicate 16 (9 : UInt8)).length ∧ 8 ∣ (List.replicate 16 (9 : UInt8)).length)
  -- no pad has the length zero, and none is longer than a block
  exact ⟨_, _, wrong_padding_indistinguishable halike hdata hdata'
    (Padding.wrong_iff.mpr (by decide)) (Padding.wrong_iff.mpr (by decide))⟩

end Engine

end Shroud
