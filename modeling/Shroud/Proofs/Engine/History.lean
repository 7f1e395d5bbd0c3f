import Mathlib.Data.List.Nodup
import Shroud.Proofs.Engine.Run

/-!
# The history of a run

A run makes calls one after another. Its history (`Workspace.history`) keeps of each call that was made what lay in
the workspace before it, the reply, and what lay there afterwards: an `Exchange`. What holds of one call then holds of
every call of a run, and two things can be said of the calls together:

* What no call undoes holds before each of them (`Workspace.before_of_mem_history`).
* A counter that only grows hands out different numbers to different calls: call after call they are the next ones in
  line, none of them left out and none of them twice (`Workspace.flatMap_span_history`).
-/

namespace Shroud.Workspace

variable {e : Engine}

/-! ### Exchanges -/

/-- **A call that was made**: what lay in the workspace before it, the reply, and what lay there afterwards. -/
structure Exchange where
  step : Step
  before : Workspace
  reply : Except Failure Reply
  after : Workspace

namespace Exchange

/-- The request of the call. -/
def request (x : Exchange) : Request :=
  x.step.request (x.before.others x.step.password)

/-- The octets of the password, if it has any. -/
def password? (x : Exchange) : Option Bytes :=
  (x.before.secret? x.step.password).bind Secret.octets?

/-- The exchange is that of a call to the engine. -/
def Made (e : Engine) (x : Exchange) : Prop :=
  x.before.call e x.step = some (x.reply, x.after)

/-- The numbers that a counter passes during a call. -/
def span (count : Workspace → Nat) (x : Exchange) : List Nat :=
  List.range' (count x.before) (count x.after - count x.before)

/-- **A call is a request on the password that is offered**, in the session that calls share. -/
theorem Made.exists_offered {x : Exchange} (h : x.Made e) :
    ∃ s, x.before.secret? x.step.password = some s
      ∧ x.reply = (e.perform x.request).result (.offering s x.before.session)
      ∧ x.after.session = (e.perform x.request (.offering s x.before.session)).2.session := by
  rw [Made, call, perform_eq] at h
  obtain ⟨s, hs, hcall⟩ := Option.map_eq_some_iff.mp h
  obtain ⟨hreply, hafter⟩ := Prod.mk.inj hcall
  exact ⟨s, hs, hreply.symm, (congrArg Workspace.session hafter).symm⟩

end Exchange

/-! ### Histories -/

/-- **The calls of a run that were made**, the earliest first. -/
def history (e : Engine) : Workspace → List Step → List Exchange
  | _, [] => []
  | w, step :: steps =>
    match w.call e step with
    | some (reply, after) => ⟨step, w, reply, after⟩ :: history e after steps
    | none => history e w steps

variable {w : Workspace} {steps : List Step}

/-- The history of a run starts with the call that is made first. -/
theorem history_cons_of_call {step : Step} {reply : Except Failure Reply} {after : Workspace}
    (h : w.call e step = some (reply, after)) :
    w.history e (step :: steps) = ⟨step, w, reply, after⟩ :: after.history e steps := by
  rw [history, h]

/-- **What no call undoes** holds before each call of a run. -/
theorem before_of_mem_history {P : Workspace → Prop}
    (hstep : ∀ x : Exchange, x.Made e → P x.before → P x.after) (hw : P w) :
    ∀ x ∈ w.history e steps, x.Made e ∧ P x.before := by
  induction steps generalizing w with
  | nil => exact fun x hx => absurd hx List.not_mem_nil
  | cons step steps ih =>
    rw [history]
    cases hcall : w.call e step with
    | none => exact ih hw
    | some outcome =>
      obtain ⟨reply, after⟩ := outcome
      intro x hx
      -- either this is the exchange, or it comes later in a workspace that is as good
      obtain rfl | hlater := List.mem_cons.mp hx
      · exact ⟨hcall, hw⟩
      · exact ih (hstep ⟨step, w, reply, after⟩ hcall hw) x hlater

/-- Exchanges of a history were made by the engine. -/
theorem made_of_mem_history {x : Exchange} (hx : x ∈ w.history e steps) : x.Made e :=
  (before_of_mem_history (P := fun _ => True) (fun _ _ _ => trivial) trivial x hx).1

/-! ### Counters -/

variable {count : Workspace → Nat}

/-- What never goes down in a call does not go down in a run. -/
theorem count_le_run (hcount : ∀ x : Exchange, x.Made e → count x.before ≤ count x.after) :
    count w ≤ count (w.run e steps) := by
  induction steps generalizing w with
  | nil => exact Nat.le_refl _
  | cons step steps ih =>
    rw [run]
    cases hcall : w.call e step with
    | none => exact ih
    | some outcome => exact Nat.le_trans (hcount ⟨step, w, outcome.1, outcome.2⟩ hcall) ih

/-- **A counter that only grows** passes the same numbers call after call as over the whole run. -/
theorem flatMap_span_history (hcount : ∀ x : Exchange, x.Made e → count x.before ≤ count x.after) :
    (w.history e steps).flatMap (·.span count)
      = List.range' (count w) (count (w.run e steps) - count w) := by
  induction steps generalizing w with
  | nil =>
    rw [run, Nat.sub_self]
    rfl
  | cons step steps ih =>
    rw [history, run]
    cases hcall : w.call e step with
    | none => exact ih
    | some outcome =>
      obtain ⟨reply, after⟩ := outcome
      have hhere : count w ≤ count after := hcount ⟨step, w, reply, after⟩ hcall
      have hthere : count after ≤ count (after.run e steps) := count_le_run hcount
      -- the numbers of the later calls start where those of this call end
      have hstart : count after = count w + 1 * (count after - count w) := by omega
      have hlength : count (after.run e steps) - count w
          = (count after - count w) + (count (after.run e steps) - count after) := by omega
      change List.range' (count w) (count after - count w) ++ (after.history e steps).flatMap _ = _
      rw [ih]
      change _ = List.range' (count w) (count (after.run e steps) - count w)
      rw [hlength, ← List.range'_append, ← hstart]

/-- **No number is handed out twice.** -/
theorem pairwise_disjoint_span (hcount : ∀ x : Exchange, x.Made e → count x.before ≤ count x.after) :
    (w.history e steps).Pairwise fun x y => (x.span count).Disjoint (y.span count) := by
  have hnodup : ((w.history e steps).flatMap (·.span count)).Nodup := by
    rw [flatMap_span_history hcount]
    exact List.nodup_range'
  exact (List.nodup_flatMap.mp hnodup).2

end Shroud.Workspace
