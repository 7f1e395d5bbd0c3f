import Shroud.Engine.Request
import Shroud.Proofs.Engine.Trace
import Shroud.Proofs.Log.Reports

/-!
# What a call reports

What an operation does to the journal is a `Report`: lines outside of any operation, or one operation with the lines
noted inside it and the way it ended. `Engine.Runs` says how an operation runs together with its report, and it says so
for every journal at once. So an operation that runs does the same whatever the journal is: it gives the same result,
leaves the same password and the same session, and asks for the same lines, be they written or not.

The rules of `Engine.Runs` follow the way operations are written, and each part of the engine is put together from
them: most parts only note lines that could stand inside an operation (`Engine.Remarks`), and the requests are those
parts, on their own or under a name. `Engine.exists_runs` is the result: every request runs, in every call, with a
report of the form that `Engine.operationName?` tells.
-/

namespace Shroud

variable {α β : Type}

namespace Engine

variable {e : Engine} {c c' c'' : Call}

/-! ### Running whatever the journal is -/

/-- **How an operation runs**: its result, the call that it leaves, and its report. None of these depends on the
journal, and neither does the journal in the call that is left. -/
def Runs (e : Engine) (x : Op α) (c : Call) (result : Except Failure α) (left : Call) (report : Report) : Prop :=
  ∀ j, x (c.withJournal j) = (result, left.withJournal (j.reported e.around logger report))

namespace Runs

variable {x : Op α} {f : α → Op β} {a : α} {r : Except Failure α} {r' : Except Failure β} {failure : Failure}
  {report : Report} {notices notices' : List Notice}

/-- An operation that runs is run with the journal that there is. -/
theorem eq (h : e.Runs x c r c' report) :
    x c = (r, c'.withJournal (c.session.journal.reported e.around logger report)) :=
  h c.session.journal

theorem pure : e.Runs (pure a : Op α) c (.ok a) c (.outside []) := fun _ => rfl

theorem ofResult : e.Runs (Op.ofResult r) c r c (.outside []) := fun _ => rfl

theorem fail : e.Runs (Op.fail failure : Op α) c (.error failure) c (.outside []) := fun _ => rfl

/-- What a step notes is all that it reports. -/
theorem note (severity : Severity) (message : String) (fields : Fields) :
    e.Runs (e.note severity message fields) c (.ok ()) c (.outside [⟨severity, message, fields⟩]) := fun _ => rfl

/-- Two steps write what the first writes and then what the second writes. -/
theorem bind_of_ok (hx : e.Runs x c (.ok a) c' (.outside notices))
    (hf : e.Runs (f a) c' r' c'' (.outside notices')) :
    e.Runs (x >>= f) c r' c'' (.outside (notices ++ notices')) := by
  intro j
  rw [Op.bind_of_ok (hx j), hf]
  simp only [Journal.reported, Journal.noteAll_append]

theorem bind_of_error (hx : e.Runs x c (.error failure) c' report) :
    e.Runs (x >>= f) c (.error failure) c' report :=
  fun j => Op.bind_of_error (hx j) f

/-- After a step that notes nothing, the report is that of what follows. -/
theorem bind_of_quiet (hx : e.Runs x c (.ok a) c' (.outside [])) (hf : e.Runs (f a) c' r' c'' report) :
    e.Runs (x >>= f) c r' c'' report := by
  intro j
  rw [Op.bind_of_ok (hx j)]
  exact hf j

/-- Before a step that only turns the result into another, the report is that of what came first. -/
theorem bind_pure (g : α → β) (hx : e.Runs x c r c' report) :
    e.Runs (x >>= fun a => Pure.pure (g a)) c (r.map g) c' report := by
  intro j
  cases r with
  | ok a => exact Op.bind_of_ok (hx j) _
  | error failure => exact Op.bind_of_error (hx j) _

/-- A password that is refused is refused silently. -/
theorem consuming_of_error (h : c.custody.claim = .error failure) (work : Op α) :
    e.Runs (Op.consuming work) c (.error failure) c (.outside []) := by
  intro j
  have hclaim : (c.withJournal j).custody.claim = .error failure := h
  simp only [Op.consuming, hclaim]
  rfl

/-- Taking the password over and wiping it write nothing. -/
theorem consuming_of_ok {work : Op α} {claimed : Custody} (h : c.custody.claim = .ok claimed)
    (hwork : e.Runs work { c with custody := claimed } r c' report) :
    e.Runs (Op.consuming work) c r { c' with custody := c'.custody.wipe } report := by
  intro j
  have hclaim : (c.withJournal j).custody.claim = .ok claimed := h
  have hwork : work { c.withJournal j with custody := claimed } = _ := hwork j
  simp only [Op.consuming, hclaim, hwork]
  rfl

/-- **An operation under a name** has a report of its own, with the notices of the work in it. -/
theorem logged (name : String) {work : Op α} (hwork : e.Runs work c r c' (.outside notices)) :
    e.Runs (e.logged name work) c r c' (.operation name notices (endingOf r)) := by
  intro j
  -- the work starts in the call with the journal of the operation, whatever journal came with the call
  have hinside : work ((c.withJournal j).withJournal ((j.tick e.around).2.enter e.around name)) = (r, _) :=
    hwork ((j.tick e.around).2.enter e.around name)
  have hclosed := j.leave_closed_eq_operated e.around logger name notices (endingOf r) rfl
  have htick : (c.withJournal j).session.journal.tick e.around = (e.around.clock j.ticks, (j.tick e.around).2) := rfl
  unfold Engine.logged Op.logged Journal.timed Journal.close
  simp only [htick, hinside, call_closing_eq]
  exact Prod.ext rfl (congrArg (Call.withJournal · c') hclosed)

end Runs

/-! ### Operations that only make remarks -/

/-- **An operation makes remarks**: it runs in every call, and all that it notes can stand inside an operation. -/
def Remarks (e : Engine) (x : Op α) : Prop :=
  ∀ c, ∃ r c' notices, (∀ n ∈ notices, Notice.IsRemark n) ∧ e.Runs x c r c' (.outside notices)

namespace Remarks

/-- An operation that never notes anything makes no remark that could be wrong. -/
theorem of_quiet {x : Op α} (h : ∀ c, ∃ r c', e.Runs x c r c' (.outside [])) : e.Remarks x := by
  intro c
  obtain ⟨r, c', hruns⟩ := h c
  exact ⟨r, c', [], fun _ hn => absurd hn List.not_mem_nil, hruns⟩

theorem pure {a : α} : e.Remarks (pure a : Op α) := of_quiet fun _ => ⟨_, _, .pure⟩

theorem ofResult {r : Except Failure α} : e.Remarks (Op.ofResult r) := of_quiet fun _ => ⟨_, _, .ofResult⟩

theorem fail {failure : Failure} : e.Remarks (Op.fail failure : Op α) := of_quiet fun _ => ⟨_, _, .fail⟩

/-- What is confined to the password makes no remarks at all. -/
theorem of_confined {x : Op α} (h : x.Confined) : e.Remarks x := by
  obtain ⟨f, -, hf⟩ := h
  -- with another journal it gives the same and leaves the same, but for this journal
  exact of_quiet fun c => ⟨(x c).1, (x c).2, fun j => by
    rw [hf, hf]
    rfl⟩

theorem note {severity : Severity} {message : String} {fields : Fields}
    (h : Notice.IsRemark ⟨severity, message, fields⟩) : e.Remarks (e.note severity message fields) :=
  fun _ => ⟨_, _, _, fun _ hn => List.mem_singleton.mp hn ▸ h, .note severity message fields⟩

/-- Remarks in a row are remarks. -/
theorem bind {x : Op α} {f : α → Op β} (hx : e.Remarks x) (hf : ∀ a, e.Remarks (f a)) : e.Remarks (x >>= f) := by
  intro c
  obtain ⟨r, c', notices, hnotices, hruns⟩ := hx c
  cases r with
  | error failure => exact ⟨_, _, notices, hnotices, hruns.bind_of_error⟩
  | ok a =>
    obtain ⟨r', c'', notices', hnotices', hruns'⟩ := hf a c'
    refine ⟨_, _, notices ++ notices', fun n hn => ?_, hruns.bind_of_ok hruns'⟩
    obtain h | h := List.mem_append.mp hn
    · exact hnotices n h
    · exact hnotices' n h

theorem consuming {work : Op α} (h : e.Remarks work) : e.Remarks (Op.consuming work) := by
  intro c
  cases hclaim : c.custody.claim with
  | error failure =>
    exact ⟨_, _, [], fun _ hn => absurd hn List.not_mem_nil, .consuming_of_error hclaim work⟩
  | ok claimed =>
    obtain ⟨r, c', notices, hnotices, hruns⟩ := h { c with custody := claimed }
    exact ⟨_, _, notices, hnotices, .consuming_of_ok hclaim hruns⟩

end Remarks

/-! ### Parts of the engine -/

/-- The settings that count do not depend on the journal, and reading them leaves it as it is. -/
theorem runs_currentSettings (c : Call) :
    ∃ c', c'.custody = c.custody
      ∧ e.Runs e.currentSettings c (e.settingsIn c.session).1 c' (.outside []) := by
  refine ⟨{ c with session := (e.settingsIn c.session).2 }, rfl, fun j => ?_⟩
  unfold currentSettings Op.onSession settingsIn Session.settings Call.withJournal
  -- settings come from the engine, from the session that has read them, or from the sources
  cases e.settings with
  | some settings => rfl
  | none =>
    cases c.session.known with
    | some settings => rfl
    | none => cases Settings.load c.session.sources <;> rfl

/-- Nothing is said about the salt, be it given or drawn. -/
theorem runs_saltOrFresh (length : Nat) (salt : Option Bytes) (c : Call) :
    ∃ used c', e.Runs (e.saltOrFresh length salt) c (.ok used) c' (.outside []) := by
  cases salt with
  | some given => exact ⟨given, c, .ofResult⟩
  | none =>
    exact ⟨(c.session.draw e.around length).1, { c with session := (c.session.draw e.around length).2 }, fun _ => rfl⟩

/-- Settings are read silently. -/
theorem remarks_currentSettings : e.Remarks e.currentSettings :=
  .of_quiet fun c =>
    have ⟨c', _, hruns⟩ := runs_currentSettings c
    ⟨_, c', hruns⟩

/-- The warning of a lookup is a remark if its words are. -/
theorem remarks_orWarn {message field : String} (hfield : field ∉ LogFormat.operationFields)
    (hmessage : isTerminal message = false) (found : Except Failure Descriptor) :
    e.Remarks (e.orWarn message field found) := by
  unfold orWarn
  split
  · exact .ofResult
  · next name =>
    -- the field of the warning has a name of its own, so it does not stand for the operation
    have hremark : Notice.IsRemark ⟨.warning, message, [(field, .text name)]⟩ := by
      refine ⟨fun other hother => ?_, hmessage⟩
      have hne : other ≠ field := fun heq => hfield (heq ▸ hother)
      simp [List.lookup_cons, beq_eq_false_iff_ne.mpr hne]
    exact (Remarks.note hremark).bind fun _ => .fail
  · exact .fail

theorem remarks_scheme (v : Value) : e.Remarks (e.scheme v) :=
  remarks_orWarn (by decide) (by decide) (Descriptor.ofScheme v)

theorem remarks_resolve (algorithm : AlgorithmId) : e.Remarks (e.resolve algorithm) :=
  remarks_orWarn (by decide) (by decide) (Descriptor.ofAlgorithm algorithm.algorithm)

/-- Keys are derived silently. -/
theorem remarks_buildMode (d : Descriptor) (salt : Bytes) (iterations : Int) (direction : Direction) :
    e.Remarks (e.buildMode d salt iterations direction) :=
  .of_confined (e.confined_buildMode d salt iterations direction)

/-- Making a tool is no operation, and only remarks are made on it. -/
theorem remarks_encrypterFor (scheme : Value) (salt : Bytes) (iterations : Int) :
    e.Remarks (e.encrypterFor scheme salt iterations) :=
  .consuming (.bind (remarks_scheme scheme) fun d => remarks_buildMode d salt iterations .encrypt)

theorem remarks_decrypterFor (algorithm : AlgorithmId) : e.Remarks (e.decrypterFor algorithm) := by
  refine .consuming (.bind (remarks_resolve algorithm) fun d => ?_)
  refine .bind remarks_currentSettings fun settings => .bind .ofResult fun p => ?_
  exact remarks_buildMode d p.salt p.iterations .decrypt

/-- The checks of an envelope make remarks only. -/
theorem remarks_opening (offered : Option Envelope) : e.Remarks (e.opening offered) := by
  cases offered with
  | none => exact .consuming .fail
  | some envelope =>
    refine .consuming (.bind (remarks_resolve envelope.algorithm) fun d => .bind .ofResult fun _ => ?_)
    exact .bind (remarks_decrypterFor envelope.algorithm) fun mode => .pure

/-! ### Requests -/

/-- Work under a name whose parts only make remarks has the report of an operation that ends as the work does. -/
theorem exists_runs_logged (name : String) {work : Op α} (h : e.Remarks work) (c : Call) :
    ∃ r c' report, e.Runs (e.logged name work) c r c' report ∧ report.HasForm (endingOf r) (some name) := by
  obtain ⟨r, c', notices, hnotices, hruns⟩ := h c
  exact ⟨r, c', _, hruns.logged name, .operation hnotices⟩

/-- **A whole encryption is an operation**, and its report ends with its outcome. -/
theorem exists_runs_encrypt (scheme : Value) (message : Option Bytes) (salt : Bytes) (iterations : Int) (c : Call) :
    ∃ r c' report, e.Runs (e.encrypt scheme message salt iterations) c r c' report
      ∧ report.HasForm (endingOf r) (some "pbe_encrypt") := by
  refine exists_runs_logged "pbe_encrypt" ?_ c
  refine .bind (remarks_encrypterFor scheme salt iterations) fun mode => .bind .ofResult fun message => ?_
  have hmessage : isTerminal "Encrypted payload" = false := by decide
  refine .bind (.of_confined (confined_encryptPadded mode message)) fun encrypted =>
    .bind (.note ⟨?_, hmessage⟩) fun _ => .pure
  -- none of the fields of the payload has the name of one that the operation is carried under
  intro name hname
  simp only [LogFormat.operationFields, List.mem_cons, List.not_mem_nil, or_false] at hname
  obtain rfl | rfl := hname <;> rfl

/-- **A whole decryption is an operation**, and its report ends with its outcome. -/
theorem exists_runs_decrypt (offered : Option Envelope) (c : Call) :
    ∃ r c' report, e.Runs (e.decrypt offered) c r c' report
      ∧ report.HasForm (endingOf r) (some "pbe_decrypt") := by
  refine exists_runs_logged "pbe_decrypt" ?_ c
  exact .bind (remarks_opening offered) fun opened => .of_confined (confined_decryptPadded opened.1 opened.2)

/-- **What comes before encrypting** when it is into an envelope: settings have to be read, the password has to be one,
and the scheme has to be found. -/
def beforeEncrypting (e : Engine) (session : Session) (custody : Custody) (scheme : Value) :
    Except Failure Descriptor := do
  let settings ← (e.settingsIn session).1
  let _ ← custody.claim
  Descriptor.ofScheme (schemeOrDefault settings scheme)

/-- **The name of the operation that a request gets to**, if it gets to any. -/
def operationName? (e : Engine) (c : Call) : Request → Option String
  | .encrypt .. => some "pbe_encrypt"
  | .decrypt _ => some "pbe_decrypt"
  | .encryptEnvelope _ scheme _ _ =>
    match e.beforeEncrypting c.session c.custody scheme with
    | .ok _ => some "pbe_encrypt"
    | .error _ => none
  | .encrypterFor .. | .decrypterFor _ => none

/-- **Encrypting into an envelope** reports what comes before it, or else the operation inside. -/
theorem exists_runs_encryptEnvelope (message : Option Bytes) (scheme : Value) (iterations : Option Int)
    (salt : Option Bytes) (c : Call) :
    ∃ r c' report, e.Runs (e.encryptEnvelope message scheme iterations salt) c r c' report
      ∧ report.HasForm (endingOf r) (e.operationName? c (.encryptEnvelope message scheme iterations salt)) := by
  have hnone : ∀ n ∈ ([] : List Notice), Notice.IsRemark n := fun _ hn => absurd hn List.not_mem_nil
  unfold operationName? beforeEncrypting
  obtain ⟨c₁, hcustody, hcurrent⟩ := runs_currentSettings (e := e) c
  -- nothing is written until the scheme is looked up: the settings come first, and then the password
  cases hsettings : (e.settingsIn c.session).1 with
  | error failure =>
    rw [hsettings] at hcurrent
    exact ⟨_, _, _, hcurrent.bind_of_error, .outside hnone⟩
  | ok settings =>
    rw [hsettings] at hcurrent
    cases hclaim : c.custody.claim with
    | error failure =>
      rw [← hcustody] at hclaim
      exact ⟨_, _, _, hcurrent.bind_of_quiet (.consuming_of_error hclaim _), .outside hnone⟩
    | ok claimed =>
      rw [← hcustody] at hclaim
      obtain ⟨found, c₂, notices, hnotices, hlookup⟩ :=
        e.remarks_scheme (schemeOrDefault settings scheme) { c₁ with custody := claimed }
      -- the lookup finds what the scheme alone decides, so the two can be compared
      have hfound : found = Descriptor.ofScheme (schemeOrDefault settings scheme) := by
        have hresult := e.result_orWarn "Unsupported PBE scheme requested" "scheme"
          (Descriptor.ofScheme (schemeOrDefault settings scheme)) { c₁ with custody := claimed }
        rw [Op.result] at hresult
        exact (congrArg Prod.fst hlookup.eq).symm.trans hresult
      change ∃ r c' report, _ ∧ Report.HasForm (endingOf r)
        (match Descriptor.ofScheme (schemeOrDefault settings scheme) with
          | .ok _ => some "pbe_encrypt"
          | .error _ => none) report
      cases hscheme : Descriptor.ofScheme (schemeOrDefault settings scheme) with
      | error failure =>
        -- the lookup fails, and its warning stands outside of any operation
        rw [hfound, hscheme] at hlookup
        refine ⟨_, _, _, hcurrent.bind_of_quiet (.consuming_of_ok hclaim hlookup.bind_of_error), .outside hnotices⟩
      | ok d =>
        -- a scheme that is found is found silently, and all that is left is one operation
        have hquiet : e.Runs (e.scheme (schemeOrDefault settings scheme)) { c₁ with custody := claimed } (.ok d)
            { c₁ with custody := claimed } (.outside []) := by
          unfold Engine.scheme
          rw [hscheme]
          exact .ofResult
        obtain ⟨used, c₃, hsalt⟩ := runs_saltOrFresh (e := e) settings.saltLength salt { c₁ with custody := claimed }
        obtain ⟨r, c₄, report, hencrypt, hform⟩ := exists_runs_encrypt (e := e) (.scheme d.scheme) message used
          (iterations.getD settings.defaultIterations) c₃
        refine ⟨_, _, _, hcurrent.bind_of_quiet (.consuming_of_ok hclaim
          (hquiet.bind_of_quiet (hsalt.bind_of_quiet (hencrypt.bind_pure _)))), ?_⟩
        rwa [endingOf_map]

/-- **Every request runs**, with a report of the operation that it gets to and of the way in which it ended. -/
theorem exists_runs (e : Engine) (request : Request) (c : Call) :
    ∃ r c' report, e.Runs (e.perform request) c r c' report
      ∧ report.HasForm (endingOf r) (e.operationName? c request) := by
  have hremarks : ∀ {γ : Type} {x : Op γ} (g : γ → Reply), e.Remarks x →
      ∃ r c' report, e.Runs (x >>= fun a => pure (g a)) c r c' report ∧ report.HasForm (endingOf r) none := by
    intro γ x g hx
    obtain ⟨r, c', notices, hnotices, hruns⟩ := hx c
    exact ⟨_, _, _, hruns.bind_pure g, .outside hnotices⟩
  -- the form of a report depends on how the request ended and not on what it returns
  have hreported : ∀ {γ : Type} {x : Op γ} {name? : Option String} (g : γ → Reply),
      (∃ r c' report, e.Runs x c r c' report ∧ report.HasForm (endingOf r) name?) →
      ∃ r c' report, e.Runs (x >>= fun a => pure (g a)) c r c' report ∧ report.HasForm (endingOf r) name? := by
    intro γ x name? g ⟨r, c', report, hruns, hform⟩
    refine ⟨_, _, _, hruns.bind_pure g, ?_⟩
    rwa [endingOf_map]
  cases request with
  | encrypterFor scheme salt iterations => exact hremarks .mode (remarks_encrypterFor scheme salt iterations)
  | decrypterFor algorithm => exact hremarks .mode (remarks_decrypterFor algorithm)
  | encrypt scheme message salt iterations =>
    exact hreported .octets (exists_runs_encrypt scheme message salt iterations c)
  | decrypt offered => exact hreported .octets (exists_runs_decrypt offered c)
  | encryptEnvelope message scheme iterations salt =>
    exact hreported .envelope (exists_runs_encryptEnvelope message scheme iterations salt c)

end Engine

end Shroud
