import Shroud.Proofs.Descriptor
import Shroud.Proofs.Engine.Tools

/-!
# What the engine gives

What an operation of the engine gives is determined by its arguments, the octets of the password, and the
settings; neither the journal nor the way the password was handed over matters. The functions
`Engine.modeFor`, `Engine.encrypted` and `Engine.decrypted` say what it is, without custody and session, and
for each operation a theorem says that it gives just this in every call that holds the password
(`Engine.result_encrypterFor`, `Engine.result_decrypterFor`, `Engine.result_encrypt`,
`Engine.result_decrypt`, `Engine.result_encryptEnvelope`).

In particular the password is still there whenever it is needed: the inner operations that wipe it are each
the last to use it.
-/

namespace Shroud

namespace Engine

variable {α : Type} (e : Engine) {c : Call} {password : Bytes}

/-! ### What is given -/

/-- The ciphertext of a message. -/
def encrypted (d : Descriptor) (password message salt : Bytes) (iterations : Int) :
    Except Failure Bytes := do
  let mode ← e.modeFor d password salt iterations .encrypt
  mode.result (Padding.pad blockSize message)

/-- The plaintext of an envelope. -/
def decrypted (settings : Settings) (password : Bytes) (envelope : Envelope) : Except Failure Bytes := do
  let d ← Descriptor.ofAlgorithm envelope.algorithm.algorithm
  checkAligned envelope.data.length d.blockSize
  let p ← envelope.algorithm.derivationParameters (some settings.maxIterations)
  let mode ← e.modeFor d password p.salt p.iterations .decrypt
  let padded ← mode.result envelope.data
  (Padding.unpad blockSize padded).1

/-! ### Lookups and settings -/

/-- A lookup that finds something does nothing else. -/
theorem orWarn_eq_ok {message field : String} {found : Except Failure Descriptor} {d : Descriptor}
    {c c' : Call} (h : e.orWarn message field found c = (.ok d, c')) : found = .ok d ∧ c' = c := by
  unfold orWarn at h
  split at h
  · obtain ⟨hd, rfl⟩ := Prod.mk.inj h
    exact ⟨hd, rfl⟩
  · exact absurd (congrArg Prod.fst h) (by simp [note, Op.note, Op.fail, bind, Op.bind])
  · exact absurd (congrArg Prod.fst h) (by simp [Op.fail])

@[simp] theorem result_orWarn (message field : String) (found : Except Failure Descriptor) (c : Call) :
    (e.orWarn message field found).result c = found := by
  unfold orWarn
  split <;> rfl

/-- **What follows a lookup** starts in the same call, with what was found. -/
theorem result_orWarn_bind {message field : String} {found : Except Failure Descriptor}
    {f : Descriptor → Op α} {g : Descriptor → Except Failure α}
    (h : ∀ d, found = .ok d → (f d).result c = g d) :
    (e.orWarn message field found >>= f).result c = found >>= g := by
  rw [Op.result_bind, result_orWarn]
  intro d c' hd
  obtain ⟨hfound, rfl⟩ := e.orWarn_eq_ok hd
  exact h d hfound

/-- A lookup that fails ends what it stands in front of. -/
theorem result_orWarn_bind_of_error {message field : String} {found : Except Failure Descriptor} {failure : Failure}
    (h : found = .error failure) (f : Descriptor → Op α) :
    (e.orWarn message field found >>= f).result c = .error failure := by
  have hlookup : e.orWarn message field found c = (.error failure, (e.orWarn message field found c).2) :=
    Prod.ext ((e.result_orWarn message field found c).trans h) rfl
  rw [Op.result, Op.bind_of_error hlookup]

/-- The settings come from the engine, from the session that has read them, or from the sources, and depend on nothing
else. -/
theorem settingsIn_congr {s s' : Session} (hknown : s.known = s'.known) (hsources : s.sources = s'.sources) :
    (e.settingsIn s).1 = (e.settingsIn s').1 := by
  unfold settingsIn Session.settings
  rw [hknown, hsources]
  cases e.settings with
  | some settings => rfl
  | none =>
    cases s'.known with
    | some settings => rfl
    | none => cases Settings.load s'.sources <;> rfl

@[simp] theorem settingsIn_withJournal (j : Journal) (c : Call) :
    (e.settingsIn (c.withJournal j).session).1 = (e.settingsIn c.session).1 :=
  e.settingsIn_congr rfl rfl

/-- Settings that can be read are read, and the custody stays as it is. -/
theorem currentSettings_eq {settings : Settings} (h : (e.settingsIn c.session).1 = .ok settings) :
    ∃ c', e.currentSettings c = (.ok settings, c') ∧ c'.custody = c.custody := by
  refine ⟨{ c with session := (e.settingsIn c.session).2 }, ?_, rfl⟩
  rw [← h]
  rfl

/-! ### What the operations give -/

/-- **A mode from the password.** Key and vector are derived before the password is wiped. -/
theorem result_buildMode (hc : c.Holds password) (d : Descriptor) (salt : Bytes) (iterations : Int)
    (direction : Direction) :
    (e.buildMode d salt iterations direction).result c
      = e.modeFor d password salt iterations direction := by
  obtain ⟨claimed, hclaim, rfl⟩ := hc
  rw [Op.result, e.buildMode_of_claim hclaim]

/-- What is padded and encrypted is what the mode makes of the padded message. -/
theorem result_encryptPadded (mode : Mode) (message : Bytes) (c : Call) :
    (encryptPadded mode message).result c = mode.result (Padding.pad blockSize message) := by
  rw [Op.result, encryptPadded_eq]

/-- What is decrypted and unpadded comes out of the mode with its padding. -/
theorem result_decryptPadded (mode : Mode) (data : Bytes) (c : Call) :
    (decryptPadded mode data).result c = mode.result data >>= fun padded => (Padding.unpad blockSize padded).1 := by
  rw [Op.result, decryptPadded_eq]
  cases mode.result data <;> rfl

/-- **The tool for encryption** needs the scheme, and then the key. -/
theorem result_encrypterFor (hc : c.Holds password) (scheme : Value) (salt : Bytes) (iterations : Int) :
    (e.encrypterFor scheme salt iterations).result c = (do
      let d ← Descriptor.ofScheme scheme
      e.modeFor d password salt iterations .encrypt) := by
  obtain ⟨c', hc', -, -, hconsuming⟩ := hc.result_consuming
  rw [encrypterFor, hconsuming]
  exact e.result_orWarn_bind fun d _ => e.result_buildMode hc' ..

/-- **The tool for decryption** needs the identifier, the parameters and then the key. -/
theorem result_decrypterFor (hc : c.Holds password) {settings : Settings}
    (hsettings : (e.settingsIn c.session).1 = .ok settings) (algorithm : AlgorithmId) :
    (e.decrypterFor algorithm).result c = (do
      let d ← Descriptor.ofAlgorithm algorithm.algorithm
      let p ← algorithm.derivationParameters (some settings.maxIterations)
      e.modeFor d password p.salt p.iterations .decrypt) := by
  -- the claim is inside the lookup of the algorithm, so what is held survives both
  obtain ⟨c', hc', -, hsession, hconsuming⟩ := hc.result_consuming
  rw [← hsession] at hsettings
  obtain ⟨c'', hcurrent, hcustody⟩ := e.currentSettings_eq hsettings
  rw [decrypterFor, hconsuming]
  refine e.result_orWarn_bind fun d _ => ?_
  rw [Op.result_bind_of_ok hcurrent, Op.result_ofResult_bind]
  simp only [e.result_buildMode (hc'.of_custody hcustody)]

/-- **Encrypting** gives the ciphertext of the message under the scheme that is asked for. -/
theorem result_encrypt (hc : c.Holds password) (scheme : Value) (message salt : Bytes)
    (iterations : Int) :
    (e.encrypt scheme (some message) salt iterations).result c = (do
      let d ← Descriptor.ofScheme scheme
      e.encrypted d password message salt iterations) := by
  obtain ⟨j, hlogged⟩ := e.result_logged "pbe_encrypt" c
  have hj : (c.withJournal j).Holds password := hc.of_custody rfl
  -- with the mode there, neither the password nor the call matters any more
  rw [encrypt, hlogged, Op.result_bind (g := fun mode => mode.result (Padding.pad blockSize message)),
    e.result_encrypterFor hj]
  · simp only [bind_assoc, encrypted]
  · intro mode c' _
    have hmessage : Op.ofResult (messageOctets (some message)) c' = (.ok message, c') := rfl
    rw [Op.result_bind_of_ok hmessage, Op.result_bind (g := .ok), result_encryptPadded]
    · exact bind_pure _
    · exact fun encrypted c'' _ => rfl

/-- **An envelope is opened by its identifier, its length, its parameters and the key**, in this order. -/
theorem result_opening (hc : c.Holds password) {settings : Settings}
    (hsettings : (e.settingsIn c.session).1 = .ok settings) (envelope : Envelope) :
    (e.opening (some envelope)).result c = (do
      let d ← Descriptor.ofAlgorithm envelope.algorithm.algorithm
      checkAligned envelope.data.length d.blockSize
      let p ← envelope.algorithm.derivationParameters (some settings.maxIterations)
      let mode ← e.modeFor d password p.salt p.iterations .decrypt
      return (mode, envelope.data)) := by
  obtain ⟨c', hc', -, hsession, hconsuming⟩ := hc.result_consuming
  rw [← hsession] at hsettings
  rw [opening, hconsuming]
  refine e.result_orWarn_bind fun d hfound => ?_
  rw [Op.result_ofResult_bind]
  refine bind_congr fun _ => ?_
  -- the inner operation looks the algorithm up once more, and finds the same
  rw [Op.result_bind (g := fun mode => .ok (mode, envelope.data)),
    e.result_decrypterFor hc' hsettings, hfound]
  · simp only [bind_assoc]
    rfl
  · intro mode c'' _
    rfl

/-- **Decrypting** gives the plaintext of the envelope. -/
theorem result_decrypt (hc : c.Holds password) {settings : Settings}
    (hsettings : (e.settingsIn c.session).1 = .ok settings) (envelope : Envelope) :
    (e.decrypt (some envelope)).result c = e.decrypted settings password envelope := by
  obtain ⟨j, hlogged⟩ := e.result_logged "pbe_decrypt" c
  have hj : (c.withJournal j).Holds password := hc.of_custody rfl
  have hknown : (e.settingsIn (c.withJournal j).session).1 = .ok settings := by
    rw [settingsIn_withJournal, hsettings]
  -- opening and unpadding in a row, inside one operation
  rw [decrypt, hlogged, Op.result_bind (g := fun opened => do
      let padded ← opened.1.result opened.2
      (Padding.unpad blockSize padded).1), e.result_opening hj hknown]
  · simp only [bind_assoc, pure_bind, decrypted]
  · exact fun opened c' _ => result_decryptPadded opened.1 opened.2 c'

/-- The salt of an envelope: the one that is given, or one that is drawn. -/
theorem saltOrFresh_eq (length : Nat) (salt : Option Bytes) (c : Call) :
    ∃ used c', e.saltOrFresh length salt c = (.ok used, c') ∧ c'.custody = c.custody
      ∧ ∀ given, salt = some given → used = given := by
  cases salt with
  | some given => exact ⟨given, c, rfl, rfl, fun _ h => Option.some.inj h⟩
  | none => exact ⟨_, _, rfl, rfl, by simp⟩

/-- **Encrypting into an envelope** gives the ciphertext with the parameters it was made with. What was not
asked for comes from the settings. -/
theorem result_encryptEnvelope (hc : c.Holds password) {settings : Settings}
    (hsettings : (e.settingsIn c.session).1 = .ok settings) (message : Bytes) (scheme : Value)
    (iterations : Option Int) (salt : Option Bytes) :
    ∃ used, (∀ given, salt = some given → used = given)
      ∧ (e.encryptEnvelope (some message) scheme iterations salt).result c = (do
        let d ← Descriptor.ofScheme (schemeOrDefault settings scheme)
        let n := iterations.getD settings.defaultIterations
        let data ← e.encrypted d password message used n
        return ⟨⟨.text d.oid, Parameters.encode ⟨used, n⟩⟩, data⟩) := by
  obtain ⟨c₁, hcurrent, hcustody⟩ := e.currentSettings_eq hsettings
  obtain ⟨c₂, hc₂, -, -, hconsuming⟩ := (hc.of_custody hcustody).result_consuming
  obtain ⟨used, c₃, hsalt, hsaltCustody, hused⟩ := e.saltOrFresh_eq settings.saltLength salt c₂
  refine ⟨used, hused, ?_⟩
  rw [encryptEnvelope, Op.result_bind_of_ok hcurrent, hconsuming]
  refine e.result_orWarn_bind fun d hfound => ?_
  -- the inner operation is given the scheme itself, and finds the same descriptor
  rw [Op.result_bind_of_ok hsalt, Op.result_bind (g := fun data => .ok
      ⟨⟨.text d.oid, Parameters.encode ⟨used, iterations.getD settings.defaultIterations⟩⟩, data⟩),
    e.result_encrypt (hc₂.of_custody hsaltCustody)]
  · obtain ⟨s, rfl⟩ := Descriptor.ofScheme_eq_ok hfound
    rw [Scheme.scheme_descriptor, Descriptor.ofScheme_scheme]
    rfl
  · intro data c₄ _
    rfl

end Engine

end Shroud
