import Shroud.Proofs.Engine.Outcome
import Shroud.Proofs.Log.Setups

/-!
# What the engine notes

An operation `Engine.Notes` a row of notices in a call if these are all that it does to the journal; it is
`Op.Quiet` if it notes nothing in any call. Both follow the way operations are written. Of everything that
the engine does with passwords, parameters and data only two steps are not quiet: a lookup that finds nothing
(`Engine.warnings`), and the payload that was encrypted (`Engine.payloads`).

An operation under a name is closed with one more notice, which tells how it ended. So the journal after
encrypting or decrypting is known from the lookup and the outcome alone (`Engine.journal_encrypt`,
`Engine.journal_decrypt`). For encrypting into an envelope the lookup stands before the operation
(`Engine.journal_encryptEnvelope_of_error`, `Engine.exists_encrypt_of_encryptEnvelope`).
-/

namespace Shroud

variable {α β : Type}

/-- How a result ends an operation: without a failure, or with one of a kind. -/
def endingOf : Except Failure α → Option FaultKind
  | .ok _ => none
  | .error failure => some failure.kind

/-- How a call ended does not depend on what it returns. -/
theorem endingOf_map (f : α → β) (r : Except Failure α) : endingOf (r.map f) = endingOf r := by
  cases r <;> rfl

/-! ### Operations that note nothing -/

/-- **The journal is left as it is found.** -/
def Op.Quiet (x : Op α) : Prop :=
  ∀ c, (x c).2.session.journal = c.session.journal

namespace Op.Quiet

theorem pure {a : α} : Quiet (pure a : Op α) := fun _ => rfl

theorem ofResult {r : Except Failure α} : Quiet (Op.ofResult r) := fun _ => rfl

theorem fail {failure : Failure} : Quiet (Op.fail failure : Op α) := fun _ => rfl

/-- What is confined to the password never gets to the journal. -/
theorem of_confined {x : Op α} (h : Confined x) : Quiet x := by
  obtain ⟨f, -, hf⟩ := h
  intro c
  rw [hf]

/-- Two quiet steps are quiet together. -/
theorem bind {x : Op α} {f : α → Op β} (hx : Quiet x) (hf : ∀ a, Quiet (f a)) : Quiet (x >>= f) :=
  kept_bind (·.session.journal) hx hf

/-- The custody of the password is not written about. -/
theorem consuming {work : Op α} (h : Quiet work) : Quiet (Op.consuming work) := by
  intro c
  unfold Op.consuming
  -- neither the claim nor the wipe touches the session
  cases c.custody.claim with
  | error failure => rfl
  | ok claimed => exact h { c with custody := claimed }

end Op.Quiet

theorem Op.call_bind_pure (x : Op α) (f : α → β) (c : Call) :
    ((x >>= fun a => pure (f a)) c).2 = (x c).2 := by
  obtain ⟨a, c', hres, hbind⟩ | ⟨failure, c', hres, hbind⟩ := Op.bind_cases x (fun a => pure (f a)) c
  · rw [hbind, hres]
    rfl
  · rw [hbind, hres]

/-- Naming the answer changes the outcome by the name alone. -/
theorem Op.result_bind_pure (x : Op α) (f : α → β) (c : Call) :
    (x >>= fun a => pure (f a)).result c = (x.result c).map f := by
  unfold Op.result
  obtain ⟨a, c', hres, hbind⟩ | ⟨failure, c', hres, hbind⟩ := Op.bind_cases x (fun a => pure (f a)) c
  · rw [hbind, hres]
    rfl
  · rw [hbind, hres]
    rfl

namespace Engine

variable {e : Engine} {c : Call} {password : Bytes} {notices notices' : List Notice}

open Op (Quiet Confined)

/-! ### Notices of operations -/

/-- **The notices of an operation in a call**: all that it does to the journal is to note them. -/
def Notes (e : Engine) (x : Op α) (c : Call) (notices : List Notice) : Prop :=
  (x c).2.session.journal = c.session.journal.noteAll e.around logger notices

namespace Notes

/-- A quiet step notes nothing. -/
theorem of_quiet {x : Op α} (h : Quiet x) : e.Notes x c [] := h c

/-- A note is what it says. -/
theorem note (severity : Severity) (message : String) (fields : Fields) :
    e.Notes (e.note severity message fields) c [⟨severity, message, fields⟩] := rfl

/-- Two steps note what each of them does. -/
theorem bind_of_ok {x : Op α} {f : α → Op β} {a : α} {c' : Call} (hres : x c = (.ok a, c'))
    (hx : e.Notes x c notices) (hf : e.Notes (f a) c' notices') :
    e.Notes (x >>= f) c (notices ++ notices') := by
  unfold Notes at hx hf ⊢
  rw [hres] at hx
  rw [Op.bind_of_ok hres, hf, hx, Journal.noteAll_append]

theorem bind_of_error {x : Op α} {f : α → Op β} {failure : Failure} {c' : Call}
    (hres : x c = (.error failure, c')) (hx : e.Notes x c notices) : e.Notes (x >>= f) c notices := by
  unfold Notes at hx ⊢
  rw [hres] at hx
  rw [Op.bind_of_error hres, hx]

theorem ofResult_bind {a : α} {f : α → Op β} (h : e.Notes (f a) c notices) :
    e.Notes (Op.ofResult (.ok a) >>= f) c notices := h

/-- Quiet steps add nothing, whether they are reached or not. -/
theorem bind_quiet {x : Op α} {f : α → Op β} (hx : e.Notes x c notices) (hf : ∀ a, Quiet (f a)) :
    e.Notes (x >>= f) c notices := by
  obtain ⟨a, c', hres, -⟩ | ⟨failure, c', hres, -⟩ := Op.bind_cases x f c
  -- the second step notes nothing, so that the notices are those of the first
  · rw [← List.append_nil notices]
    exact bind_of_ok hres hx (of_quiet (hf a))
  · exact bind_of_error hres hx

/-- Work on a password that can be claimed notes what it notes with the password claimed. -/
theorem consuming {work : Op α} (hc : c.Holds password)
    (h : ∀ c', c'.session = c.session → e.Notes work c' notices) :
    e.Notes (Op.consuming work) c notices := by
  obtain ⟨c', -, hsession, hconsuming⟩ := hc.session_consuming
  have hwork := h c' hsession
  unfold Notes at hwork ⊢
  rw [hconsuming, hwork, hsession]

end Notes

/-! ### Lookups -/

/-- The notices of a lookup: a warning if what is asked for is not supported. -/
def warnings (message field : String) : Except Failure Descriptor → List Notice
  | .error (.unsupported name) => [⟨.warning, message, [(field, .text name)]⟩]
  | _ => []

/-- A lookup notes its warning, and nothing if it finds something. -/
theorem notes_orWarn (message field : String) (found : Except Failure Descriptor) :
    e.Notes (e.orWarn message field found) c (warnings message field found) := by
  cases found with
  | ok d => exact .of_quiet .ofResult
  | error failure =>
    cases failure
    case unsupported name => exact Notes.bind_quiet (.note ..) fun _ => .fail
    -- other failures are passed on without a word
    all_goals exact .of_quiet .fail

theorem quiet_orWarn_of_ok {message field : String} {d : Descriptor} :
    Quiet (e.orWarn message field (.ok d)) :=
  Quiet.ofResult

/-- What follows a lookup is reached only if something is found. -/
theorem notes_orWarn_bind {message field : String} {found : Except Failure Descriptor}
    {f : Descriptor → Op α} (hf : ∀ d, found = .ok d → Quiet (f d)) :
    e.Notes (e.orWarn message field found >>= f) c (warnings message field found) := by
  cases hfound : found with
  | ok d =>
    refine Notes.of_quiet fun c => ?_
    have hres : e.orWarn message field (.ok d) c = (.ok d, c) := rfl
    rw [Op.bind_of_ok hres]
    exact hf d hfound c
  -- nothing follows, so the warning is all
  | error failure =>
    have hnotes : e.Notes (e.orWarn message field (.error failure)) c _ :=
      notes_orWarn message field (.error failure)
    have hresult := e.result_orWarn message field (.error failure) c
    exact Notes.bind_of_error (Prod.ext hresult rfl) hnotes

/-! ### Quiet steps of the engine -/

theorem quiet_currentSettings : Quiet e.currentSettings := by
  intro c
  unfold currentSettings Op.onSession settingsIn
  cases e.settings with
  | some settings => rfl
  | none => exact c.session.journal_settings

theorem quiet_saltOrFresh (length : Nat) (salt : Option Bytes) : Quiet (e.saltOrFresh length salt) := by
  -- drawing octets moves the random source only
  cases salt with
  | none => exact fun _ => rfl
  | some salt => exact .ofResult

theorem quiet_buildMode (d : Descriptor) (salt : Bytes) (iterations : Int) (direction : Direction) :
    Quiet (e.buildMode d salt iterations direction) :=
  .of_confined (e.confined_buildMode d salt iterations direction)

/-- A tool for decryption is made without a note if the identifier is registered. -/
theorem quiet_decrypterFor {algorithm : AlgorithmId} {d : Descriptor}
    (hfound : Descriptor.ofAlgorithm algorithm.algorithm = .ok d) : Quiet (e.decrypterFor algorithm) := by
  refine .consuming (.bind ?_ fun d => ?_)
  · rw [resolve, hfound]
    exact quiet_orWarn_of_ok
  · refine .bind quiet_currentSettings fun settings => .bind .ofResult fun p => ?_
    exact quiet_buildMode d p.salt p.iterations .decrypt

/-! ### Encrypting and decrypting -/

/-- For encryption only the lookup of the scheme can be noted. -/
theorem notes_encrypterFor (hc : c.Holds password) (scheme : Value) (salt : Bytes) (iterations : Int) :
    e.Notes (e.encrypterFor scheme salt iterations) c
      (warnings "Unsupported PBE scheme requested" "scheme" (Descriptor.ofScheme scheme)) := by
  refine Notes.consuming hc fun c' _ => ?_
  exact notes_orWarn_bind fun d _ => quiet_buildMode d salt iterations .encrypt

/-- For decryption only the lookup of the identifier can be noted. -/
theorem notes_opening (hc : c.Holds password) (envelope : Envelope) :
    e.Notes (e.opening (some envelope)) c
      (warnings "Unsupported PBE algorithm" "algorithm"
        (Descriptor.ofAlgorithm envelope.algorithm.algorithm)) := by
  refine Notes.consuming hc fun c' _ => notes_orWarn_bind fun d hfound => ?_
  -- the algorithm is looked up once more, with the same success
  refine .bind .ofResult fun _ => .bind (quiet_decrypterFor hfound) fun mode => .pure

/-- The notice of a ciphertext of so many octets; there is none if encrypting failed. -/
def payloads (scheme : Value) (iterations : Int) : Except Failure Nat → List Notice
  | .ok length => [⟨.debug, "Encrypted payload", [("scheme", .text (schemeName scheme)),
      ("iterations", .int iterations), ("ciphertext_length", .int length)]⟩]
  | .error _ => []

/-- Sending a message through a mode notes its payload. -/
theorem notes_encryptPadded (mode : Mode) (message : Bytes) (scheme : Value) (iterations : Int) :
    e.Notes (do
        let encrypted ← encryptPadded mode message
        e.note .debug "Encrypted payload" [("scheme", .text (schemeName scheme)),
          ("iterations", .int iterations), ("ciphertext_length", .int encrypted.length)]
        return encrypted) c
      (payloads scheme iterations ((mode.result (Padding.pad blockSize message)).map List.length)) := by
  have hquiet : e.Notes (encryptPadded mode message) c [] :=
    .of_quiet (.of_confined (confined_encryptPadded mode message))
  have heq := encryptPadded_eq mode message c
  -- there is a payload if the mode took the message
  cases hresult : mode.result (Padding.pad blockSize message) with
  | error failure =>
    rw [hresult] at heq
    exact Notes.bind_of_error heq hquiet
  | ok encrypted =>
    rw [hresult] at heq
    exact Notes.bind_of_ok heq hquiet (Notes.bind_quiet (.note ..) fun _ => .pure)

/-- What encrypting notes, by its outcome: the length of the ciphertext, or the failure. -/
def encryptNotices (scheme : Value) (iterations : Int) (outcome : Except Failure Nat) : List Notice :=
  warnings "Unsupported PBE scheme requested" "scheme" (Descriptor.ofScheme scheme)
    ++ payloads scheme iterations outcome

/-- The closing line of an operation is a call in order: its fields are its own, and it is no plain call. -/
theorem call_closing_eq (j : Journal) (around : Surroundings) (name : String) (spent : Value)
    (result : Except Failure α) :
    j.call around (Journal.closing logger name spent result)
      = (.ok (), j.noteAll around logger [.closing name spent (endingOf result)]) := by
  cases result with
  | ok a => exact Journal.call_eq_noteAll rfl rfl (fun _ => rfl) rfl rfl
  | error failure => exact Journal.call_eq_noteAll rfl rfl (fun _ => rfl) rfl rfl

/-- **An operation under a name** notes what the work in it notes, and how it ended. Apart from entries, only
the counts of operations and of readings of the clock have changed afterwards. -/
theorem journal_logged (name : String) {work : Op α} (h : ∀ j, e.Notes work (c.withJournal j) notices) :
    (e.logged name work c).2.session.journal
      = c.session.journal.operated e.around logger name notices
          (endingOf ((e.logged name work).result c)) := by
  have hwork := h ((c.session.journal.tick e.around).2.enter e.around name)
  unfold Notes at hwork
  unfold Op.result logged Op.logged Journal.timed Journal.close
  simp only [call_closing_eq]
  exact Journal.leave_closed_eq_operated _ _ _ _ _ _ hwork

/-- **The journal after decrypting**: a warning if the algorithm is not supported, and how it ended. -/
theorem journal_decrypt (hc : c.Holds password) (envelope : Envelope) :
    (e.decrypt (some envelope) c).2.session.journal
      = c.session.journal.operated e.around logger "pbe_decrypt"
          (warnings "Unsupported PBE algorithm" "algorithm"
            (Descriptor.ofAlgorithm envelope.algorithm.algorithm))
          (endingOf ((e.decrypt (some envelope)).result c)) := by
  refine journal_logged _ fun j => ?_
  -- the operation changes the journal, and the password is still the one of the call
  have hj : (c.withJournal j).Holds password := hc.of_custody rfl
  exact Notes.bind_quiet (notes_opening hj envelope) fun opened =>
    .of_confined (confined_decryptPadded opened.1 opened.2)

/-- **The journal after encrypting**: a warning if the scheme is not supported, the payload if there is one, and
how it ended. Of the ciphertext only its length is told. -/
theorem journal_encrypt (hc : c.Holds password) (scheme : Value) (message salt : Bytes) (iterations : Int) :
    (e.encrypt scheme (some message) salt iterations c).2.session.journal
      = c.session.journal.operated e.around logger "pbe_encrypt"
          (encryptNotices scheme iterations
            (((e.encrypt scheme (some message) salt iterations).result c).map List.length))
          (endingOf ((e.encrypt scheme (some message) salt iterations).result c)) := by
  refine journal_logged _ fun j => ?_
  have hj : (c.withJournal j).Holds password := hc.of_custody rfl
  have hnotes := e.notes_encrypterFor hj scheme salt iterations
  -- the outcome is that of the mode, which is the same whatever the journal is
  have houtcome : (e.encrypt scheme (some message) salt iterations).result c
      = (e.encrypterFor scheme salt iterations).result (c.withJournal j)
        >>= fun mode => mode.result (Padding.pad blockSize message) := by
    rw [e.result_encrypt hc, e.result_encrypterFor hj, bind_assoc]
    rfl
  rw [houtcome]
  unfold Op.result
  cases hres : e.encrypterFor scheme salt iterations (c.withJournal j) with
  | mk result c' =>
    cases result with
    | error failure =>
      change e.Notes _ _ (_ ++ [])
      rw [List.append_nil]
      exact Notes.bind_of_error hres hnotes
    | ok mode =>
      refine Notes.bind_of_ok hres hnotes (Notes.ofResult_bind ?_)
      exact notes_encryptPadded mode message scheme iterations

/-! ### Encrypting into an envelope -/

/-- Without settings there is nothing to note. -/
theorem journal_encryptEnvelope_of_settings {failure : Failure}
    (hsettings : (e.settingsIn c.session).1 = .error failure) (message : Option Bytes) (scheme : Value)
    (iterations : Option Int) (salt : Option Bytes) :
    (e.encryptEnvelope message scheme iterations salt c).2.session.journal = c.session.journal := by
  -- reading settings that cannot be read is quiet as well
  have hquiet := quiet_currentSettings (e := e) c
  have hres : e.currentSettings c = (.error failure, (e.currentSettings c).2) := Prod.ext hsettings rfl
  rw [encryptEnvelope, Op.bind_of_error hres, hquiet]

/-- **A scheme that is not supported** is noted outside of any operation of its own. -/
theorem journal_encryptEnvelope_of_error (hc : c.Holds password) {settings : Settings}
    (hsettings : (e.settingsIn c.session).1 = .ok settings) {scheme : Value} {failure : Failure}
    (hfound : Descriptor.ofScheme (schemeOrDefault settings scheme) = .error failure)
    (message : Option Bytes) (iterations : Option Int) (salt : Option Bytes) :
    (e.encryptEnvelope message scheme iterations salt c).2.session.journal
      = c.session.journal.noteAll e.around logger
          (warnings "Unsupported PBE scheme requested" "scheme" (.error failure)) := by
  obtain ⟨c₁, hcurrent, hcustody⟩ := e.currentSettings_eq hsettings
  obtain ⟨c₂, -, hsession, hconsuming⟩ := (hc.of_custody hcustody).session_consuming (α := Envelope)
  have hquiet := quiet_currentSettings (e := e) c
  have hlookup : e.Notes (e.scheme (schemeOrDefault settings scheme)) c₂ _ := notes_orWarn _ _ _
  have hresult : (e.scheme (schemeOrDefault settings scheme)).result c₂ = .error failure := by
    rw [Engine.scheme, result_orWarn, hfound]
  rw [hcurrent] at hquiet
  rw [hfound] at hlookup
  unfold Notes at hlookup
  rw [encryptEnvelope, Op.bind_of_ok hcurrent, hconsuming, Op.bind_of_error (Prod.ext hresult rfl), hlookup,
    hsession, hquiet]

/-- **Otherwise the operation inside is that of encrypting**, in a call that has the same journal. -/
theorem exists_encrypt_of_encryptEnvelope (hc : c.Holds password) {settings : Settings}
    (hsettings : (e.settingsIn c.session).1 = .ok settings) {scheme : Value} {d : Descriptor}
    (hfound : Descriptor.ofScheme (schemeOrDefault settings scheme) = .ok d)
    (message : Option Bytes) (iterations : Option Int) (salt : Option Bytes) :
    ∃ used c', c'.Holds password ∧ c'.session.journal = c.session.journal
      ∧ (e.encryptEnvelope message scheme iterations salt c).2.session.journal
        = (e.encrypt (.scheme d.scheme) message used
            (iterations.getD settings.defaultIterations) c').2.session.journal := by
  obtain ⟨c₁, hcurrent, hcustody⟩ := e.currentSettings_eq hsettings
  obtain ⟨c₂, hc₂, hsession, hconsuming⟩ := (hc.of_custody hcustody).session_consuming (α := Envelope)
  obtain ⟨used, c₃, hsalt, hsaltCustody, -⟩ := e.saltOrFresh_eq settings.saltLength salt c₂
  have hlookup : e.scheme (schemeOrDefault settings scheme) c₂ = (.ok d, c₂) := by
    rw [Engine.scheme, hfound]
    rfl
  have hquiet := quiet_currentSettings (e := e) c
  have hdrawn := quiet_saltOrFresh (e := e) settings.saltLength salt c₂
  rw [hcurrent] at hquiet
  rw [hsalt] at hdrawn
  refine ⟨used, c₃, hc₂.of_custody hsaltCustody, ?_, ?_⟩
  · rw [hdrawn, hsession, hquiet]
  · rw [encryptEnvelope, Op.bind_of_ok hcurrent, hconsuming, Op.bind_of_ok hlookup, Op.bind_of_ok hsalt]
    exact congrArg (·.session.journal) (Op.call_bind_pure _ _ c₃)

end Engine

end Shroud
