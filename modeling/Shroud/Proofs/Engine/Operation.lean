import Shroud.Engine.Message
import Shroud.Proofs.Results

/-!
# What an operation gives

`Op.result` is what an operation gives, without the call that it leaves. The results of larger operations
come from those of their parts: a step that is known to succeed drops out (`Op.result_bind_of_ok`), and where
what follows a step does not depend on the call that it leaves, the step is one of `Except`
(`Op.result_bind`). An operation of the journal gives what the work inside it gives (`Engine.result_logged`),
since its closing line can always be logged.

A call `Holds` octets when a claim of its password would hand them out. They are held for the work in it
until something wipes them, so a claim inside a claim finds them too (`Call.Holds.result_consuming`).
-/

namespace Shroud

variable {α β : Type}

namespace Op

/-- What an operation gives. -/
def result (x : Op α) (c : Call) : Except Failure α :=
  (x c).1

theorem bind_of_ok {x : Op α} {c c' : Call} {a : α} (h : x c = (.ok a, c')) (f : α → Op β) :
    (x >>= f) c = f a c' := by
  change Op.bind x f c = f a c'
  rw [Op.bind, h]

theorem bind_of_error {x : Op α} {c c' : Call} {failure : Failure} (h : x c = (.error failure, c'))
    (f : α → Op β) : (x >>= f) c = (.error failure, c') := by
  change Op.bind x f c = _
  rw [Op.bind, h]

/-- One step after another, as a step of a program that is executed. -/
theorem bind_apply (x : Op α) (f : α → Op β) (c : Call) :
    (x >>= f) c = match x c with
      | (.ok a, c') => f a c'
      | (.error failure, c') => (.error failure, c') := rfl

/-- **How two steps run**: both, or the first one only. -/
theorem bind_cases (x : Op α) (f : α → Op β) (c : Call) :
    (∃ a c', x c = (.ok a, c') ∧ (x >>= f) c = f a c')
      ∨ ∃ failure c', x c = (.error failure, c') ∧ (x >>= f) c = (.error failure, c') := by
  cases hx : x c with
  | mk r c' =>
    cases r with
    | ok a => exact .inl ⟨a, c', rfl, bind_of_ok hx f⟩
    | error failure => exact .inr ⟨failure, c', rfl, bind_of_error hx f⟩

/-- **What each of two steps keeps**, both keep. -/
theorem kept_bind {γ : Type} (view : Call → γ) {x : Op α} {f : α → Op β}
    (hx : ∀ c, view (x c).2 = view c) (hf : ∀ a c, view (f a c).2 = view c) (c : Call) :
    view ((x >>= f) c).2 = view c := by
  have hc := hx c
  obtain ⟨a, c', hres, hbind⟩ | ⟨failure, c', hres, hbind⟩ := bind_cases x f c
  · rw [hres] at hc
    rw [hbind, hf a c', hc]
  · rw [hres] at hc
    rw [hbind, hc]

/-- A result that is known already leads on as a step does. -/
theorem result_ofResult_bind (r : Except Failure α) (f : α → Op β) (c : Call) :
    (ofResult r >>= f).result c = r >>= fun a => (f a).result c := by
  cases r <;> rfl

/-- The outcome after a step that succeeded is that of the next. -/
theorem result_bind_of_ok {x : Op α} {c c' : Call} {a : α} (h : x c = (.ok a, c')) (f : α → Op β) :
    (x >>= f).result c = (f a).result c' := by
  rw [result, bind_of_ok h, result]

/-- **Results follow one another** where what comes after a step depends on the step's result only. -/
theorem result_bind {x : Op α} {f : α → Op β} {c : Call} {g : α → Except Failure β}
    (h : ∀ a c', x c = (.ok a, c') → (f a).result c' = g a) :
    (x >>= f).result c = x.result c >>= g := by
  unfold result
  obtain ⟨a, c', hx, hbind⟩ | ⟨failure, c', hx, hbind⟩ := bind_cases x f c
  · rw [hbind, hx]
    exact h a c' hx
  · rw [hbind, hx]
    rfl

end Op

/-- Surroundings in which nothing moves. -/
def Surroundings.still : Surroundings where
  random _ := 0
  operationId _ := ""
  clock _ := 0
  now := ⟨2000, 1, 1, 0, 0, 0, 0⟩
  source := .null

/-- An engine with settings of its own. -/
def Engine.withSettings (settings : Settings) : Engine where
  settings := some settings
  around := .still

/-! ### The password of a call -/

/-- The octets that a claim of the call's password hands out. -/
def Call.Holds (c : Call) (password : Bytes) : Prop :=
  ∃ claimed, c.custody.claim = .ok claimed ∧ claimed.octets = password

/-- The call in which a secret is offered. -/
def Call.offering (s : Secret) (session : Session) : Call :=
  { custody := { offered := s }, session }

namespace Custody

/-- Claiming what is held already changes nothing. -/
theorem claim_of_held {c : Custody} (h : c.held.isSome) : c.claim = .ok c := by
  obtain ⟨held, hheld⟩ := Option.isSome_iff_exists.mp h
  simp [claim, hheld]

/-- What was claimed is held. -/
theorem held_of_claim {c claimed : Custody} (h : c.claim = .ok claimed) : claimed.held.isSome := by
  unfold claim at h
  split at h
  -- a password that is held already is claimed once more
  · next held hheld =>
    obtain rfl := Except.ok.inj h
    simp [hheld]
  · split at h
    · obtain rfl := Except.ok.inj h
      rfl
    · exact absurd h (by simp)

end Custody

namespace Call.Holds

variable {c : Call} {password : Bytes}

/-- A secret with octets is claimed with them. -/
theorem of_octets? {s : Secret} (h : s.octets? = some password) (session : Session) :
    (Call.offering s session).Holds password := by
  -- a call starts with nothing held, so claiming takes what was offered
  refine ⟨⟨s, some password⟩, ?_, rfl⟩
  simp [Call.offering, Custody.claim, h]

theorem octets?_eq {s : Secret} {session : Session} (h : (Call.offering s session).Holds password) :
    s.octets? = some password := by
  obtain ⟨claimed, hclaim, hoctets⟩ := h
  simp only [Call.offering, Custody.claim] at hclaim
  split at hclaim
  · next bs hbs =>
    obtain rfl := Except.ok.inj hclaim
    rw [hbs, ← hoctets]
    rfl
  · exact absurd hclaim (by simp)

/-- Only the custody tells what password a call has. -/
theorem of_custody (h : c.Holds password) {c' : Call} (hcustody : c'.custody = c.custody) :
    c'.Holds password := by
  unfold Holds
  rwa [hcustody]

/-- **Work that consumes the password** starts with it claimed, and may claim it again. Of what the work
leaves, only the custody is changed. -/
theorem consuming_eq (h : c.Holds password) :
    ∃ c' : Call, c'.Holds password ∧ c'.custody.octets = password ∧ c'.session = c.session
      ∧ ∀ work : Op α, Op.consuming work c
        = ((work c').1, { (work c').2 with custody := (work c').2.custody.wipe }) := by
  obtain ⟨claimed, hclaim, hoctets⟩ := h
  have hagain := Custody.claim_of_held (Custody.held_of_claim hclaim)
  refine ⟨{ c with custody := claimed }, ⟨claimed, hagain, hoctets⟩, hoctets, rfl, fun work => ?_⟩
  simp only [Op.consuming, hclaim]

/-- **Work on a password runs with the password held**, in the session of the call. -/
theorem result_consuming (h : c.Holds password) :
    ∃ c' : Call, c'.Holds password ∧ c'.custody.octets = password ∧ c'.session = c.session
      ∧ ∀ work : Op α, (Op.consuming work).result c = work.result c' := by
  obtain ⟨c', hc', hoctets, hsession, hconsuming⟩ := h.consuming_eq
  refine ⟨c', hc', hoctets, hsession, fun work => ?_⟩
  rw [Op.result, hconsuming, Op.result]

/-- What work on a password does to the session stays. -/
theorem session_consuming (h : c.Holds password) :
    ∃ c' : Call, c'.Holds password ∧ c'.session = c.session
      ∧ ∀ work : Op α, (Op.consuming work c).2.session = (work c').2.session := by
  obtain ⟨c', hc', -, hsession, hconsuming⟩ := h.consuming_eq
  refine ⟨c', hc', hsession, fun work => ?_⟩
  rw [hconsuming]

end Call.Holds

/-! ### Operations of the journal -/

namespace Journal

/-- **The closing line can be logged**: none of its fields has the name of a parameter. -/
theorem call_closing (j : Journal) (around : Surroundings) (name : String) (spent : Value)
    (result : Except Failure α) :
    (j.call around (closing Engine.logger name spent result)).1 = .ok () := by
  have hfields : (closing Engine.logger name spent result).hasField ["msg", "self"] = false := by
    cases result <;> rfl
  have hmisuse : (closing Engine.logger name spent result).misuse? = none := by
    cases result <;> rfl
  unfold call
  -- whether or not the level is enabled
  rw [hfields, hmisuse, if_neg Bool.false_ne_true]
  split <;> rfl

end Journal

namespace Engine

/-- **Work inside an operation of the engine gives its own result.** It starts in a call that differs in
the journal only. -/
theorem result_logged (e : Engine) (name : String) (c : Call) :
    ∃ j, ∀ work : Op α, (e.logged name work).result c = work.result (c.withJournal j) := by
  refine ⟨(c.session.journal.tick e.around).2.enter e.around name, fun work => ?_⟩
  simp only [Op.result, logged, Op.logged, Journal.timed, Journal.close, Journal.call_closing]

end Engine

end Shroud
