import Shroud.Proofs.Engine.Custody
import Shroud.Proofs.Engine.Frame
import Shroud.Proofs.Log.Fields

/-!
# Runs of calls

Passwords lie in a workspace by name, and so do the buffers that calls read their other arguments from. A
`Workspace.Step` is one call: the name of its password, and a request that may depend on everything else that
lies there at that moment. `Workspace.run` makes calls one after another.

A single call consumes its password (`Op.Consumes`) and leaves everything else as it is, since no operation of the
engine touches the other secrets (`Op.Blind`). `Workspace.perform_eq_some` says both. By induction a run leaves every
password that was used consumed, and everything else as it was (`Workspace.secret?_run`), so that after each call of a
run both can be said of it (`Workspace.run_consumes`). Whether calls succeed makes no difference; a password of the
wrong kind makes them fail.
-/

namespace Shroud

namespace Workspace

@[simp] theorem secret?_put (w : Workspace) (name other : String) (s : Secret) :
    (w.put name s).secret? other = if other = name then some s else w.secret? other :=
  Assoc.lookup_set name other s w.secrets

/-! ### One call -/

variable {e : Engine} {settings : Settings}

/-- **A request that consumes its password** changes nothing else. What is no secret is refused. -/
theorem perform_eq_some_of_consumes {w w' : Workspace} {name : String} {request : Request}
    {reply : Except Failure Reply} (hconsumes : Op.Consumes (e.perform request))
    (hcall : w.perform e name request = some (reply, w')) :
    ∃ s, w.secret? name = some s
      ∧ (∀ other, w'.secret? other = if other = name then some s.consumed else w.secret? other)
      ∧ (s.octets? = none → reply = .error (.misuse .secretKind)) := by
  rw [perform_eq] at hcall
  obtain ⟨s, hs, hcall⟩ := Option.map_eq_some_iff.mp hcall
  obtain ⟨rfl, rfl⟩ := Prod.mk.inj hcall
  refine ⟨s, hs, fun other => ?_, fun hnone => hconsumes.result_of_octets?_eq_none hnone w.session⟩
  rw [← hconsumes.settle s w.session]
  exact secret?_put w name other _

/-- A call to an engine with settings consumes its password and changes nothing else. -/
theorem perform_eq_some (h : e.settings = some settings) {w w' : Workspace} {name : String}
    {request : Request} {reply : Except Failure Reply}
    (hcall : w.perform e name request = some (reply, w')) :
    ∃ s, w.secret? name = some s
      ∧ (∀ other, w'.secret? other = if other = name then some s.consumed else w.secret? other)
      ∧ (s.octets? = none → reply = .error (.misuse .secretKind)) :=
  perform_eq_some_of_consumes (e.perform_consumes h request) hcall

/-! ### Runs -/

/-- One call: the name of its password, and a request that may depend on everything else that lies there. -/
structure Step where
  password : String
  request : (String → Option Secret) → Request

/-- What a call may read besides its password. -/
def others (w : Workspace) (name : String) : String → Option Secret :=
  fun other => if other = name then none else w.secret? other

/-- A call, made in a workspace; none when there is no such password. -/
def call (w : Workspace) (e : Engine) (step : Step) : Option (Except Failure Reply × Workspace) :=
  w.perform e step.password (step.request (w.others step.password))

/-- **The workspace after calls**, one after another. A call without a password is none. -/
def run (e : Engine) : Workspace → List Step → Workspace
  | w, [] => w
  | w, step :: steps => run e (((w.call e step).map Prod.snd).getD w) steps

theorem run_append (e : Engine) (w : Workspace) (steps steps' : List Step) :
    w.run e (steps ++ steps') = (w.run e steps).run e steps' := by
  induction steps generalizing w with
  | nil => rfl
  | cons step steps ih => exact ih _

/-- A call that is made or not: its password is consumed if it is there. -/
theorem secret?_call (h : e.settings = some settings) (w : Workspace) (step : Step) (name : String) :
    (((w.call e step).map Prod.snd).getD w).secret? name
      = if name = step.password then (w.secret? name).map Secret.consumed else w.secret? name := by
  cases hcall : w.call e step with
  | none =>
    -- no such password, so there is nothing to consume
    have hnone : w.secret? step.password = none := Option.map_eq_none_iff.mp hcall
    by_cases hname : name = step.password
    · simp [hname, hnone]
    · simp [hname]
  | some outcome =>
    -- what is in place of the password afterwards is what is left of it
    obtain ⟨s, hs, hafter, -⟩ := perform_eq_some h hcall
    by_cases hname : name = step.password
    · subst hname
      simp [hafter, hs]
    · simp [hafter, hname]

/-- **A run consumes the passwords that it uses** and changes nothing else. -/
theorem secret?_run (h : e.settings = some settings) (w : Workspace) (steps : List Step) (name : String) :
    (w.run e steps).secret? name
      = if name ∈ steps.map Step.password then (w.secret? name).map Secret.consumed else w.secret? name := by
  induction steps generalizing w with
  | nil => simp [run]
  | cons step steps ih =>
    rw [run, ih, secret?_call h]
    -- consuming once more makes no difference
    have htwice : Secret.consumed ∘ Secret.consumed = Secret.consumed :=
      funext Secret.consumed_consumed
    by_cases hname : name = step.password <;> by_cases hused : name ∈ steps.map Step.password <;>
      simp [hname, hused, htwice]

/-- **Passwords are consumed on every path.** After each call of a run, whatever the calls are and however
they end:

* every password used so far is consumed, and everything else is as it was before the run;
* against the moment before the call, the password of the call is consumed and nothing else has changed;
* if that password is no secret, the call failed for its kind. -/
theorem run_consumes (h : e.settings = some settings) (w : Workspace) (steps : List Step) (step : Step)
    {reply : Except Failure Reply} {w' : Workspace}
    (hcall : (w.run e steps).call e step = some (reply, w')) :
    (∀ name, w'.secret? name = if name ∈ (steps ++ [step]).map Step.password
      then (w.secret? name).map Secret.consumed else w.secret? name)
    ∧ (∀ name, w'.secret? name = if name = step.password
      then ((w.run e steps).secret? name).map Secret.consumed else (w.run e steps).secret? name)
    ∧ (((w.run e steps).secret? step.password).bind Secret.octets? = none →
      ∃ failure, reply = .error failure ∧ failure.kind = .type) := by
  have hafter : ((w.run e steps).call e step).map Prod.snd = some w' := by rw [hcall]; rfl
  refine ⟨fun name => ?_, fun name => ?_, fun hkind => ?_⟩
  · -- the call is one more step of the run
    have hrun := secret?_run h w (steps ++ [step]) name
    rwa [run_append, run, run, hafter, Option.getD_some] at hrun
  · have hstep := secret?_call h (w.run e steps) step name
    rwa [hafter, Option.getD_some] at hstep
  · obtain ⟨s, hs, -, hrefused⟩ := perform_eq_some h hcall
    rw [hs, Option.bind_some] at hkind
    exact ⟨_, hrefused hkind, rfl⟩

/-- Two calls that fail, on a buffer and on immutable octets; the second reads its salt from a third. -/
theorem run_consumes_two_failures :
    ∃ reply w',
      (({ secrets := [("p", .buffer [0x61]), ("q", .octets [0x62]), ("salt", .buffer [0x63])] }
          : Workspace).run (.withSettings {}) [⟨"p", fun _ => .decrypt none⟩]).call (.withSettings {})
        ⟨"q", fun read => .encrypt (.text "unknown") none (((read "salt").bind Secret.octets?).getD []) 1⟩
        = some (reply, w')
      ∧ w'.secret? "p" = some (.buffer [0])
      ∧ w'.secret? "q" = some (.octets [0x62])
      ∧ w'.secret? "salt" = some (.buffer [0x63]) := by
  refine ⟨_, _, rfl, ?_⟩
  obtain ⟨hrun, -, -⟩ := run_consumes (e := .withSettings {}) rfl
    { secrets := [("p", .buffer [0x61]), ("q", .octets [0x62]), ("salt", .buffer [0x63])] }
    [⟨"p", fun _ => .decrypt none⟩]
    ⟨"q", fun read => .encrypt (.text "unknown") none (((read "salt").bind Secret.octets?).getD []) 1⟩ rfl
  exact ⟨(hrun "p").trans rfl, (hrun "q").trans rfl, (hrun "salt").trans rfl⟩

end Workspace

end Shroud
