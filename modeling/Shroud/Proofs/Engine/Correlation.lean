import Shroud.Proofs.Engine.History
import Shroud.Proofs.Engine.Reports

/-!
# One correlated trace for every call

Every request runs with a report (`Engine.exists_runs`), and does the same whatever the journal is. Over a run of calls
this says three things.

* Call after call the journal grows by the lines of a report, so the lines of a run are those of its calls
  (`Workspace.entries_run`), and at the lowest level those of each call are a trace.
* A report of an operation opens one and no other report does. So the count of opened operations hands out a number of
  its own to every call that gets to an operation, and with it an identifier.
* What is reported does not depend on the level. Only what is written does, and nothing else
  (`Workspace.history_atLevel`).

`Workspace.history_correlated` puts them together.
-/

namespace Shroud

/-- The call in a log that is at another level. -/
def Call.atLevel (level : Nat) (c : Call) : Call :=
  c.withJournal (c.session.journal.atLevel level)

/-- The engine writes as a logger of the package. -/
theorem Engine.isPackageLogger_logger : isPackageLogger Engine.logger = true := by decide

/-- **The level of the log makes no difference to a request**, except for the lines that are written. -/
theorem Engine.perform_atLevel (e : Engine) (request : Request) {c : Call} (hdebug : c.session.journal.AtDebug)
    (level : Nat) :
    e.perform request (c.atLevel level)
      = ((e.perform request c).1, (e.perform request c).2.atLevel level) := by
  obtain ⟨r, c', report, hruns, -⟩ := e.exists_runs request c
  have hlevelled : e.perform request (c.atLevel level) = _ := hruns (c.session.journal.atLevel level)
  rw [hlevelled, hruns.eq, Journal.reported_atLevel hdebug Engine.isPackageLogger_logger]
  rfl

namespace Workspace

variable {e : Engine} {w : Workspace} {steps : List Step}

/-! ### Reports of calls -/

/-- How many operations were opened so far. -/
def opened (w : Workspace) : Nat :=
  w.session.journal.opened

namespace Exchange

/-- The operation that a call got to, if it got to any: under the identifier that was next. -/
def operation? (e : Engine) (x : Exchange) : Option Operation :=
  (x.before.secret? x.step.password).bind fun s =>
    (e.operationName? (.offering s x.before.session) x.request).map fun name =>
      ⟨e.around.operationId x.before.opened, name⟩

/-- The entries that were written during a call. -/
def entries (x : Exchange) : List Entry :=
  x.after.session.journal.entries.drop x.before.session.journal.entries.length

variable {x : Exchange}

/-- **A call leaves a report** in the journal, of the operation that it got to and of the way it ended. -/
theorem Made.exists_report (h : x.Made e) :
    ∃ name? report, x.operation? e = name?.map (fun name => ⟨e.around.operationId x.before.opened, name⟩)
      ∧ (∀ name, name? = some name → name ≠ "")
      ∧ report.HasForm (endingOf x.reply) name?
      ∧ x.after.session.journal = x.before.session.journal.reported e.around Engine.logger report := by
  obtain ⟨s, hs, hreply, hafter⟩ := h.exists_offered
  obtain ⟨r, c', report, hruns, hform⟩ := e.exists_runs x.request (.offering s x.before.session)
  have hnamed : ∀ name, e.operationName? (.offering s x.before.session) x.request = some name → name ≠ "" := by
    intro name hname
    unfold Engine.operationName? at hname
    -- there are two names of operations
    split at hname
    · exact Option.some.inj hname ▸ by decide
    · exact Option.some.inj hname ▸ by decide
    · split at hname
      · exact Option.some.inj hname ▸ by decide
      · exact absurd hname (by simp)
    · exact absurd hname (by simp)
    · exact absurd hname (by simp)
  have hresult : x.reply = r := by rw [hreply, Op.result, hruns.eq]
  refine ⟨e.operationName? (.offering s x.before.session) x.request, report, ?_, hnamed, ?_, ?_⟩
  · rw [operation?, hs, Option.bind_some]
  · rwa [hresult]
  · rw [hafter, hruns.eq]
    rfl

/-- An exchange adds its own entries to the journal. -/
theorem Made.entries_eq (h : x.Made e) :
    x.after.session.journal.entries = x.before.session.journal.entries ++ x.entries := by
  obtain ⟨name?, report, -, -, -, hjournal⟩ := h.exists_report
  rw [entries, hjournal, Journal.entries_reported, List.drop_left]

/-- A call opens an operation if it gets to one. -/
theorem Made.opened_eq (h : x.Made e) :
    x.after.opened = x.before.opened + (if (x.operation? e).isSome then 1 else 0) := by
  obtain ⟨name?, report, hoperation, -, hform, hjournal⟩ := h.exists_report
  rw [opened, hjournal, Journal.opened_reported hform, hoperation, Option.isSome_map]
  rfl

end Exchange

/-- The log writes every line, and no operation is open. -/
def Listening (w : Workspace) : Prop :=
  w.session.journal.AtDebug ∧ w.session.journal.operations = []

/-- No call changes how the log is set up, or leaves an operation open. -/
theorem listening_of_made {x : Exchange} (h : x.Made e) (hbefore : x.before.Listening) : x.after.Listening := by
  obtain ⟨hdebug, hoperations⟩ := hbefore
  obtain ⟨name?, report, -, -, -, hjournal⟩ := h.exists_report
  constructor
  · rwa [Journal.AtDebug, hjournal, Journal.setup_reported]
  · rwa [hjournal, Journal.operations_reported]

/-- **The lines of a run** are those of its calls, one call after another. -/
theorem entries_run (e : Engine) (w : Workspace) (steps : List Step) :
    (w.run e steps).session.journal.entries
      = w.session.journal.entries ++ (w.history e steps).flatMap Exchange.entries := by
  induction steps generalizing w with
  | nil => rw [run, history, List.flatMap_nil, List.append_nil]
  | cons step steps ih =>
    rw [run, history]
    cases hcall : w.call e step with
    | none => exact ih w
    | some outcome =>
      obtain ⟨reply, after⟩ := outcome
      have hmade : (⟨step, w, reply, after⟩ : Exchange).Made e := hcall
      have hhere : after.session.journal.entries = w.session.journal.entries ++ _ := hmade.entries_eq
      change (after.run e steps).session.journal.entries = _
      rw [ih, hhere, List.flatMap_cons, List.append_assoc]

/-- **Different calls have different identifiers.** -/
theorem pairwise_id_ne (hids : Function.Injective e.around.operationId) :
    (w.history e steps).Pairwise fun x y =>
      ∀ o o', x.operation? e = some o → y.operation? e = some o' → o.id ≠ o'.id := by
  have hcount : ∀ x : Exchange, x.Made e → x.before.opened ≤ x.after.opened := by
    intro x hx
    rw [hx.opened_eq]
    exact Nat.le_add_right _ _
  -- the number of an operation is one that the count passes during its call
  have hnumber : ∀ x ∈ w.history e steps, ∀ o, x.operation? e = some o →
      ∃ n ∈ x.span opened, o.id = e.around.operationId n := by
    intro x hx o ho
    refine ⟨x.before.opened, ?_, ?_⟩
    · rw [Exchange.span, (made_of_mem_history hx).opened_eq, ho, List.mem_range'_1]
      simp
    · obtain ⟨s, -, ho⟩ := Option.bind_eq_some_iff.mp ho
      obtain ⟨name, -, rfl⟩ := Option.map_eq_some_iff.mp ho
      rfl
  refine (pairwise_disjoint_span hcount).imp_of_mem fun {x y} hx hy hdisjoint o o' ho ho' hid => ?_
  obtain ⟨n, hn, hidn⟩ := hnumber x hx o ho
  obtain ⟨n', hn', hidn'⟩ := hnumber y hy o' ho'
  have hsame : n = n' := hids (hidn.symm.trans (hid.trans hidn'))
  exact hdisjoint hn (hsame ▸ hn')

/-! ### Other levels -/

/-- The workspace whose log has been at another level from the start. -/
def atLevel (level : Nat) (w : Workspace) : Workspace :=
  { w with session := { w.session with journal := w.session.journal.atLevel level } }

/-- A call at another level is the same call, but for the entries that are kept. -/
theorem call_atLevel (hdebug : w.session.journal.AtDebug) (level : Nat) (step : Step) :
    (w.atLevel level).call e step
      = (w.call e step).map fun outcome => (outcome.1, outcome.2.atLevel level) := by
  have hothers : (w.atLevel level).others step.password = w.others step.password := rfl
  unfold call
  rw [hothers, perform_eq, perform_eq, Option.map_map]
  -- the same password is offered, in a call that differs in the level of the log only
  refine congrArg (fun f => (w.secret? step.password).map f) (funext fun s => ?_)
  have hperform : e.perform (step.request (w.others step.password)) (.offering s (w.atLevel level).session) = _ :=
    e.perform_atLevel (step.request (w.others step.password)) (c := .offering s w.session) hdebug level
  rw [Op.result, hperform]
  rfl

/-- The exchange in a log that is at another level. -/
def Exchange.atLevel (level : Nat) (x : Exchange) : Exchange :=
  { x with before := x.before.atLevel level, after := x.after.atLevel level }

/-- **The history at another level** is the same up to the log. -/
theorem history_atLevel (hlistening : w.Listening) (level : Nat) :
    (w.atLevel level).history e steps = (w.history e steps).map (·.atLevel level) := by
  induction steps generalizing w with
  | nil => rfl
  | cons step steps ih =>
    rw [history, history, call_atLevel hlistening.1]
    cases hcall : w.call e step with
    | none => exact ih hlistening
    | some outcome =>
      obtain ⟨reply, after⟩ := outcome
      have hmade : (⟨step, w, reply, after⟩ : Exchange).Made e := hcall
      -- the journal listens on, so the next call finds it as this one did
      have hafter : after.Listening := listening_of_made hmade hlistening
      change _ :: (after.atLevel level).history e steps = _
      rw [ih hafter]
      rfl

/-- An exchange at another level keeps the entries that reach it. -/
theorem Exchange.entries_atLevel {x : Exchange} (h : x.Made e) (level : Nat) :
    (x.atLevel level).entries = x.entries.filter (·.reaches level) := by
  have hbefore : (x.atLevel level).before.session.journal.entries
      = x.before.session.journal.entries.filter (·.reaches level) := rfl
  have hafter : (x.atLevel level).after.session.journal.entries
      = x.after.session.journal.entries.filter (·.reaches level) := rfl
  rw [entries, hbefore, hafter, h.entries_eq, List.filter_append, List.drop_left]

/-! ### The trace of a run -/

/-- **Every call leaves one correlated trace.** In a log that writes every line, with no operation open, and where
identifiers are different and not empty:

* the lines of a run are those of its calls, one call after another;
* those of a call that gets to an operation carry this operation, under its name and an identifier that no other call
  has; the last tells how the call ended, and no other reads as an end; those of every other call carry no operation;
* at any other level the replies are the same, the passwords are left the same, and the lines are those that reach
  the level. -/
theorem history_correlated (hids : Function.Injective e.around.operationId) (hid : ∀ n, e.around.operationId n ≠ "")
    (hdebug : w.session.journal.AtDebug) (hoperations : w.session.journal.operations = []) (steps : List Step) :
    (w.run e steps).session.journal.entries
        = w.session.journal.entries ++ (w.history e steps).flatMap Exchange.entries
      ∧ (∀ x ∈ w.history e steps, IsTrace (endingOf x.reply) (x.operation? e) x.entries)
      ∧ ((w.history e steps).Pairwise fun x y =>
        ∀ o o', x.operation? e = some o → y.operation? e = some o' → o.id ≠ o'.id)
      ∧ ∀ level, ((w.atLevel level).history e steps).map (fun x => (x.step, x.reply, x.after.secrets, x.entries))
        = (w.history e steps).map fun x => (x.step, x.reply, x.after.secrets, x.entries.filter (·.reaches level)) := by
  have hlistening : w.Listening := ⟨hdebug, hoperations⟩
  refine ⟨entries_run e w steps, fun x hx => ?_, pairwise_id_ne hids, fun level => ?_⟩
  · obtain ⟨hmade, hbefore⟩ := before_of_mem_history (P := Listening) (fun _ h => listening_of_made h) hlistening x hx
    obtain ⟨name?, report, hoperation, hnamed, hform, hjournal⟩ := hmade.exists_report
    have htrace := hform.isTrace (s := e.around) hbefore.1 Engine.isPackageLogger_logger hbefore.2 (hid _) hnamed
    have hentries : x.entries = x.before.session.journal.entriesOfReport e.around Engine.logger report := by
      rw [Exchange.entries, hjournal, Journal.entries_reported, List.drop_left]
    -- what was reported is what was written, and the report has the form of a trace
    rwa [hoperation, hentries]
  · rw [history_atLevel hlistening, List.map_map]
    refine List.map_congr_left fun x hx => ?_
    have hentries := Exchange.entries_atLevel (made_of_mem_history hx) level
    change (x.step, x.reply, x.after.secrets, (x.atLevel level).entries) = _
    rw [hentries]

/-- Three calls that fail: nothing is offered for decrypting, and a scheme is unknown twice. For an envelope it is
looked up before encrypting starts, so that this call gets to no operation and leaves a warning outside of any. At the
level of warnings the two warnings are left. -/
theorem history_correlated_three_failures :
    let e : Engine := { Engine.withSettings {} with around := { Surroundings.still with
      operationId := fun n => String.ofList (List.replicate (n + 1) '0') } }
    let w : Workspace :=
      { secrets := [("p", .buffer [0x61]), ("q", .octets [0x62])]
        session := { journal := { setup := some ⟨Severity.debug.number, [.json], false⟩ } } }
    let steps : List Step :=
      [⟨"p", fun _ => .decrypt none⟩, ⟨"q", fun _ => .encryptEnvelope (some []) (.text "des") none none⟩,
        ⟨"q", fun _ => .encrypt (.text "des") (some []) [] 1⟩]
    ((w.history e steps).map fun x => (endingOf x.reply, x.operation? e))
        = [(some .type, some ⟨"0", "pbe_decrypt"⟩), (some .unsupported, none),
          (some .unsupported, some ⟨"00", "pbe_encrypt"⟩)]
      ∧ (∀ x ∈ w.history e steps, IsTrace (endingOf x.reply) (x.operation? e) x.entries)
      ∧ (((w.atLevel Severity.warning.number).history e steps).map fun x =>
        x.entries.map fun l => (l.operation, l.record.template)) = [[], [(none, "Unsupported PBE scheme requested")],
          [(some ⟨"00", "pbe_encrypt"⟩, "Unsupported PBE scheme requested")]] := by
  intro e w steps
  -- identifiers are rows of zeros, one longer than the other
  have hids : Function.Injective e.around.operationId := by
    intro m n h
    have hlength := congrArg List.length (String.ofList_injective h)
    simpa using hlength
  have hid : ∀ n, e.around.operationId n ≠ "" := by
    intro n h
    exact absurd (congrArg String.length h) (by simp [e])
  obtain ⟨-, htraces, -, hlevels⟩ := history_correlated hids hid (w := w) ⟨_, rfl, rfl⟩ rfl steps
  -- at the level of warnings only the two lookups are left
  have hlines := congrArg (List.map fun x => x.2.2.2.map fun l => (l.operation, l.record.template))
    (hlevels Severity.warning.number)
  rw [List.map_map, List.map_map] at hlines
  exact ⟨by decide +kernel, htraces, hlines.trans (by decide +kernel)⟩

end Workspace

end Shroud
