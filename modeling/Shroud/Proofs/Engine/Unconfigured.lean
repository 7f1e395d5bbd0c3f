import Shroud.Proofs.Engine.Salts

/-!
# Calls while the settings cannot be read

An engine without settings of its own reads those of the session when it needs them, and reads them again at the next
need if that failed. While some of them are rejected (`Workspace.Unconfigured`), every call of a run finds the same
faults, for no call changes where settings come from.

Most requests claim the password before anything else, so it is consumed whether or not the settings are needed later.
An envelope is different. Its settings are read in front of the claim, so the call fails with their faults, and the
password is left as it was, with all its octets (`Workspace.history_unconfigured`).
-/

namespace Shroud

/-- **A call for an envelope fails with its settings** and leaves the password alone. -/
theorem Engine.perform_of_settings_error {e : Engine} {request : Request} (h : request.claimsFirst = false) {c : Call}
    {failure : Failure} (hsettings : (e.settingsIn c.session).1 = .error failure) :
    ∃ session, e.perform request c = (.error failure, { c with session }) := by
  refine ⟨(e.settingsIn c.session).2, ?_⟩
  cases request with
  | encryptEnvelope message scheme iterations salt =>
    have hcurrent : e.currentSettings c = (.error failure, { c with session := (e.settingsIn c.session).2 }) := by
      rw [← hsettings]
      rfl
    exact Op.bind_of_error (Op.bind_of_error hcurrent _) _
  | _ => exact absurd h (by simp [Request.claimsFirst])

namespace Workspace

variable {e : Engine} {w : Workspace} {faults : List SettingFault}

/-- **Settings that cannot be read**: the engine has none of its own, the session has not read any, and the sources give
values that are rejected. -/
structure Unconfigured (e : Engine) (faults : List SettingFault) (w : Workspace) : Prop where
  engine : e.settings = none
  session : w.session.known = none
  sources : Settings.ofSources w.session.sources = .error faults

theorem Unconfigured.settingsIn_eq (h : Unconfigured e faults w) :
    (e.settingsIn w.session).1 = .error (.settings faults) := by
  have hload : Settings.load w.session.sources = .error (.settings faults) := by
    rw [Settings.load, h.sources]
  simp only [Engine.settingsIn, Session.settings, h.engine, h.session, hload]

/-- **What a call does to passwords while the settings cannot be read.** If it claims its password first, the password
is consumed. Otherwise the call fails with the faults of the settings. In both cases nothing else is changed, and in the
second not even the password. -/
theorem Exchange.Made.passwords_of_settings_error {x : Exchange} (h : x.Made e) {failure : Failure}
    (hsettings : (e.settingsIn x.before.session).1 = .error failure) :
    (x.request.claimsFirst = true → ∀ name, x.after.secret? name = if name = x.step.password
      then (x.before.secret? name).map Secret.consumed else x.before.secret? name)
    ∧ (x.request.claimsFirst = false →
      x.reply = .error failure ∧ ∀ name, x.after.secret? name = x.before.secret? name) := by
  constructor
  · intro hfirst name
    obtain ⟨s, hs, hafter, -⟩ := perform_eq_some_of_consumes (e.perform_consumes_of_claimsFirst hfirst) h
    rw [hafter]
    by_cases hname : name = x.step.password
    · rw [if_pos hname, if_pos hname, hname, hs, Option.map_some]
    · rw [if_neg hname, if_neg hname]
  · intro hlate
    rw [Made, call, perform_eq] at h
    obtain ⟨s, hs, hcall⟩ := Option.map_eq_some_iff.mp h
    obtain ⟨hreply, hafter⟩ := Prod.mk.inj hcall
    obtain ⟨session, hperform⟩ := e.perform_of_settings_error (c := .offering s x.before.session) hlate hsettings
    refine ⟨hreply.symm.trans (congrArg Prod.fst hperform), fun name => ?_⟩
    -- the password was not claimed, so what is put back is what was offered
    have hsettle : (e.perform x.request (.offering s x.before.session)).2.custody.settle = s := by
      rw [hperform]
      exact Custody.settle_of_unclaimed s
    have hput : x.after.secret? name = (x.before.put x.step.password s).secret? name := by
      rw [← hafter]
      exact congrArg (fun left => (x.before.put x.step.password left).secret? name) hsettle
    rw [hput, secret?_put]
    by_cases hname : name = x.step.password
    · rw [if_pos hname, hname, hs]
    · rw [if_neg hname]

/-- **Which passwords are consumed while the settings cannot be read.** Over a run of calls, whatever the calls are and
however they end:

* every call but one for an envelope leaves its password consumed, a buffer with zeros only, and changes no other;
* a call for an envelope fails with the faults of the settings and leaves all passwords as they were. -/
theorem history_unconfigured (h : Unconfigured e faults w) (steps : List Step) :
    ∀ x ∈ w.history e steps,
      (x.request.claimsFirst = true → ∀ name, x.after.secret? name = if name = x.step.password
        then (x.before.secret? name).map Secret.consumed else x.before.secret? name)
      ∧ (x.request.claimsFirst = false →
        x.reply = .error (.settings faults) ∧ ∀ name, x.after.secret? name = x.before.secret? name) := by
  intro x hx
  obtain ⟨hmade, hsettings⟩ := before_of_mem_history
    (P := fun now => (e.settingsIn now.session).1 = .error (.settings faults))
    (fun _ hmade hbefore => (settingsIn_of_made hmade).trans hbefore) h.settingsIn_eq x hx
  exact hmade.passwords_of_settings_error hsettings

/-- The length of salts is set to zero in the environment. A call for an envelope leaves its buffer as it was; a call
for a mode with the same arguments, made after it, zeroes the same buffer. -/
theorem history_unconfigured_salt_length :
    let e : Engine := { around := .still }
    let w : Workspace :=
      { secrets := [("p", .buffer [0, 0x61])]
        session := { sources := { environment := [("PKCS12_PBE_SALT_LENGTH", "0")] } } }
    let envelope : Step := ⟨"p", fun _ => .encryptEnvelope (some [1, 2, 3]) (.scheme .rc2) (some 1) (some [0xff])⟩
    let mode : Step := ⟨"p", fun _ => .encrypterFor (.scheme .rc2) [0xff] 1⟩
    ∃ first second : Exchange,
      w.history e [envelope, mode] = [first, second]
      ∧ first.reply = .error (.settings [⟨.saltLength, .notPositive⟩])
      ∧ first.after.secret? "p" = some (.buffer [0, 0x61])
      ∧ second.before = first.after
      ∧ second.after.secret? "p" = some (.buffer [0, 0]) := by
  intro e w envelope mode
  have h : Unconfigured e [⟨.saltLength, .notPositive⟩] w := ⟨rfl, rfl, rfl⟩
  let call := e.perform (envelope.request (w.others "p")) (.offering (.buffer [0, 0x61]) w.session)
  let between : Workspace := { (w.put "p" call.2.custody.settle) with session := call.2.session }
  let call' := e.perform (mode.request (between.others "p")) (.offering (.buffer [0, 0x61]) between.session)
  let after : Workspace := { (between.put "p" call'.2.custody.settle) with session := call'.2.session }
  -- the envelope first, and then a mode with the same password
  have hcall : w.call e envelope = some (call.1, between) := (w.perform_eq e "p" _).trans rfl
  have hcall' : between.call e mode = some (call'.1, after) := (between.perform_eq e "p" _).trans rfl
  have hhistory : w.history e [envelope, mode] = [⟨envelope, w, call.1, between⟩, ⟨mode, between, call'.1, after⟩] :=
    (history_cons_of_call hcall).trans (congrArg (List.cons _) (history_cons_of_call hcall'))
  have heach := history_unconfigured h [envelope, mode]
  rw [hhistory] at heach
  obtain ⟨-, hfirst⟩ := heach ⟨envelope, w, call.1, between⟩ (by simp)
  obtain ⟨hsecond, -⟩ := heach ⟨mode, between, call'.1, after⟩ (by simp)
  obtain ⟨hreply, hkept⟩ := hfirst rfl
  -- the settings fail before the password is claimed
  have hbetween : between.secret? "p" = some (.buffer [0, 0x61]) := (hkept "p").trans rfl
  -- a mode needs no settings, so the password is consumed
  have hafter := hsecond rfl "p"
  rw [if_pos rfl] at hafter
  refine ⟨_, _, hhistory, hreply, hbetween, rfl, hafter.trans ?_⟩
  change (between.secret? "p").map Secret.consumed = _
  rw [hbetween]
  rfl

end Workspace

end Shroud
