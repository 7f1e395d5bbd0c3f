import Shroud.Proofs.Engine.Tools

/-!
# Passwords are consumed

What a call of the engine does to the password does not depend on how the call ends. Three properties of
operations say what may happen to it, each closed under what the engine is written with.

* `Op.Spares`: the custody is left as it is found.
* `Op.Guards`: what is held stays what it was, up to wiping. This is what work inside `Op.consuming` has to
  satisfy, and it leaves room for inner work that wipes early.
* `Op.Consumes`: the password is claimed and wiped, or refused and left alone.

`Op.Consumes.consuming` makes the last from the second, `Op.Consumes.guards` goes back, and that is all there
is to nesting. Every request consumes (`Engine.perform_consumes`), whatever way it fails; the one condition is
that the engine has settings of its own, because settings that cannot be read end a call for an envelope before
the password is claimed. All other requests claim it first (`Engine.perform_consumes_of_claimsFirst`).

`Workspace.run` carries out a sequence of calls on passwords that lie in a workspace by name, and
`Workspace.run_consumes` is what it leaves.
-/

namespace Shroud

variable {α β : Type}

/-! ### Custody -/

namespace Custody

/-- Wiping once more makes no difference. -/
@[simp] theorem wipe_wipe (c : Custody) : c.wipe.wipe = c.wipe := by
  cases h : c.held <;> simp [wipe, h, Bytes.wiped]

/-- What is wiped is still held. -/
@[simp] theorem isSome_held_wipe (c : Custody) : c.wipe.held.isSome = c.held.isSome := by
  simp [wipe]

/-- A secret that was not claimed is left as it was offered. -/
theorem settle_of_unclaimed (s : Secret) : ({ offered := s } : Custody).settle = s := by
  cases s <;> rfl

end Custody

namespace Op

/-! ### Operations that leave the password alone -/

/-- **The custody is left as it is found.** -/
def Spares (x : Op α) : Prop :=
  ∀ c, (x c).2.custody = c.custody

namespace Spares

theorem pure {a : α} : Spares (pure a : Op α) := fun _ => rfl

theorem ofResult {r : Except Failure α} : Spares (Op.ofResult r) := fun _ => rfl

theorem fail {failure : Failure} : Spares (Op.fail failure : Op α) := fun _ => rfl

theorem onSession {f : Session → Except Failure α × Session} : Spares (Op.onSession f) := fun _ => rfl

theorem note {around : Surroundings} {logger message : String} {severity : Severity} {fields : Fields} :
    Spares (Op.note around logger severity message fields) := fun _ => rfl

theorem bind {x : Op α} {f : α → Op β} (hx : Spares x) (hf : ∀ a, Spares (f a)) :
    Spares (x >>= f) :=
  kept_bind (·.custody) hx hf

end Spares

/-! ### Work on a password that is held -/

/-- **What is held stays what it was, up to wiping.** -/
def Guards (x : Op α) : Prop :=
  ∀ c, c.custody.held.isSome → (x c).2.custody.wipe = c.custody.wipe

/-- What leaves the custody alone guards it. -/
theorem Spares.guards {x : Op α} (hx : Spares x) : Guards x := by
  intro c _
  rw [hx c]

/-- Two steps guard what each of them guards. -/
theorem Guards.bind {x : Op α} {f : α → Op β} (hx : Guards x) (hf : ∀ a, Guards (f a)) :
    Guards (x >>= f) := by
  intro c hheld
  have hc := hx c hheld
  obtain ⟨a, c', hres, hbind⟩ | ⟨failure, c', hres, hbind⟩ := bind_cases x f c
  · rw [hres] at hc
    -- the second step finds something held, since wiping does not change whether there is
    have hheld' : c'.custody.held.isSome := by
      rw [← Custody.isSome_held_wipe, hc, Custody.isSome_held_wipe, hheld]
    rw [hbind, hf a c' hheld', hc]
  · rw [hres] at hc
    rw [hbind, hc]

/-! ### Operations that consume the password -/

/-- **The password is consumed, however the operation ends**: what a claim hands out is wiped at the end. A
password that cannot be claimed is refused and left alone. -/
structure Consumes (x : Op α) : Prop where
  wiped : ∀ c claimed, c.custody.claim = .ok claimed → (x c).2.custody = claimed.wipe
  refused : ∀ c failure, c.custody.claim = .error failure →
    x.result c = .error failure ∧ (x c).2.custody = c.custody

namespace Consumes

/-- **Wiping at the end consumes**, as long as the work keeps what is held or wipes it early. -/
theorem consuming {work : Op α} (h : Guards work) : Consumes (Op.consuming work) where
  wiped c claimed hclaim := by
    have hwork := h { c with custody := claimed } (Custody.held_of_claim hclaim)
    simpa only [Op.consuming, hclaim] using hwork
  refused c failure hclaim := by
    simp only [Op.result, Op.consuming, hclaim, and_self]

/-- Inside other work, consuming is wiping early. -/
theorem guards {x : Op α} (hx : Consumes x) : Guards x := by
  intro c hheld
  rw [hx.wiped c c.custody (Custody.claim_of_held hheld), Custody.wipe_wipe]

/-- Whatever follows may fail in its own way. -/
theorem bind {x : Op α} {f : α → Op β} (hx : Consumes x) (hf : ∀ a, Spares (f a)) :
    Consumes (x >>= f) where
  wiped c claimed hclaim := by
    have hc := hx.wiped c claimed hclaim
    obtain ⟨a, c', hres, hbind⟩ | ⟨failure, c', hres, hbind⟩ := bind_cases x f c
    · rw [hres] at hc
      rw [hbind, hf a c', hc]
    · rw [hres] at hc
      rw [hbind, hc]
  refused c failure hclaim := by
    obtain ⟨hresult, hc⟩ := hx.refused c failure hclaim
    have hres : x c = (.error failure, (x c).2) := Prod.ext hresult rfl
    rw [Op.result, bind_of_error hres]
    exact ⟨rfl, hc⟩

end Consumes

end Op

/-- Whether a request claims the password before anything else. For an envelope the settings are read first. -/
def Request.claimsFirst : Request → Bool
  | .encryptEnvelope .. => false
  | _ => true

namespace Engine

variable (e : Engine)

open Op (Spares Guards Consumes)

/-- Notes are on the session. -/
theorem spares_note {severity : Severity} {message : String} {fields : Fields} :
    Spares (e.note severity message fields) :=
  Spares.note

/-- An operation of the journal does with the password what the work inside it does. -/
theorem custody_logged (name : String) (work : Op α) (c : Call) :
    ∃ j, (e.logged name work c).2.custody = (work (c.withJournal j)).2.custody :=
  ⟨_, rfl⟩

/-- Working under a name makes no difference to the password. -/
theorem consumes_logged (name : String) {work : Op α} (h : Consumes work) :
    Consumes (e.logged name work) where
  -- the work starts in a call with another journal, and a claim does not look at the journal
  wiped c claimed hclaim := by
    obtain ⟨j, hj⟩ := e.custody_logged name work c
    rw [hj]
    exact h.wiped (c.withJournal j) claimed hclaim
  refused c failure hclaim := by
    obtain ⟨j, hj⟩ := e.custody_logged name work c
    obtain ⟨j', hj'⟩ := e.result_logged (α := α) name c
    rw [hj, hj']
    exact ⟨(h.refused (c.withJournal j') failure hclaim).1, (h.refused (c.withJournal j) failure hclaim).2⟩

/-! ### The operations of the engine -/

/-- Lookups leave the password alone. -/
theorem spares_orWarn {message field : String} {found : Except Failure Descriptor} :
    Spares (e.orWarn message field found) := by
  unfold orWarn
  -- what is not supported is noted, and a note is on the session
  split
  · exact Spares.ofResult
  · exact e.spares_note.bind fun _ => Spares.fail
  · exact Spares.fail

/-- **The password is wiped as soon as key and vector are there**, before a mode is opened under them. -/
theorem consumes_material (d : Descriptor) (salt : Bytes) (iterations : Int) :
    Consumes (e.material d salt iterations) := by
  refine Consumes.consuming (Spares.guards fun c => ?_)
  rw [e.derived_eq]
  split <;> rfl

/-- **Making a mode consumes the password**, however it ends. -/
theorem consumes_buildMode (d : Descriptor) (salt : Bytes) (iterations : Int) (direction : Direction) :
    Consumes (e.buildMode d salt iterations direction) where
  wiped c claimed hclaim := by rw [e.buildMode_of_claim hclaim]
  refused c failure hclaim := by
    rw [Op.result, e.buildMode_of_refused hclaim]
    exact ⟨rfl, rfl⟩

/-- Padding and encrypting needs no password. -/
theorem spares_encryptPadded {mode : Mode} {message : Bytes} : Spares (encryptPadded mode message) := by
  intro c
  rw [encryptPadded_eq]

/-- Decrypting and unpadding needs no password. -/
theorem spares_decryptPadded {mode : Mode} {data : Bytes} : Spares (decryptPadded mode data) := by
  intro c
  rw [decryptPadded_eq]
  split <;> rfl

/-- Making a mode for encrypting consumes the password, also if the scheme is unknown. -/
theorem consumes_encrypterFor (scheme : Value) (salt : Bytes) (iterations : Int) :
    Consumes (e.encrypterFor scheme salt iterations) := by
  refine Consumes.consuming (e.spares_orWarn.guards.bind fun d => ?_)
  exact (e.consumes_buildMode d salt iterations .encrypt).guards

/-- Making a mode for decrypting consumes the password, also if the parameters are no good. -/
theorem consumes_decrypterFor (algorithm : AlgorithmId) : Consumes (e.decrypterFor algorithm) := by
  refine Consumes.consuming (e.spares_orWarn.guards.bind fun d => ?_)
  refine Spares.onSession.guards.bind fun settings => ?_
  refine Spares.ofResult.guards.bind fun p => ?_
  exact (e.consumes_buildMode d p.salt p.iterations .decrypt).guards

theorem consumes_encrypt (scheme : Value) (message : Option Bytes) (salt : Bytes) (iterations : Int) :
    Consumes (e.encrypt scheme message salt iterations) := by
  -- the password is wiped before anyone looks at the message
  refine e.consumes_logged _ ((e.consumes_encrypterFor scheme salt iterations).bind fun mode => ?_)
  refine Spares.ofResult.bind fun message => spares_encryptPadded.bind fun _ => ?_
  exact e.spares_note.bind fun _ => Spares.pure

/-- Opening an envelope consumes the password, also if nothing is offered. -/
theorem consumes_opening (offered : Option Envelope) : Consumes (e.opening offered) := by
  cases offered with
  | none =>
    -- nothing that could be decrypted is offered, which is seen after the claim
    exact Consumes.consuming Spares.fail.guards
  | some envelope =>
    refine Consumes.consuming (e.spares_orWarn.guards.bind fun d => ?_)
    refine Spares.ofResult.guards.bind fun _ => ?_
    exact (e.consumes_decrypterFor _).guards.bind fun mode => Spares.pure.guards

theorem consumes_decrypt (offered : Option Envelope) : Consumes (e.decrypt offered) := by
  exact e.consumes_logged _ ((e.consumes_opening offered).bind fun opened => spares_decryptPadded)

/-- A salt is drawn from the session. -/
theorem spares_saltOrFresh {length : Nat} {salt : Option Bytes} : Spares (e.saltOrFresh length salt) := by
  cases salt with
  | none => exact Spares.onSession
  | some salt => exact Spares.ofResult

/-- Encrypting into an envelope consumes the password, as long as the settings need not be read. -/
theorem consumes_encryptEnvelope {settings : Settings} (h : e.settings = some settings)
    (message : Option Bytes) (scheme : Value) (iterations : Option Int) (salt : Option Bytes) :
    Consumes (e.encryptEnvelope message scheme iterations salt) := by
  -- the settings are read before the claim, so they have to be there
  have hcurrent : e.currentSettings = pure settings := by
    funext c
    simp only [currentSettings, Op.onSession, settingsIn, h]
    rfl
  -- all that follows is inside the claim
  rw [encryptEnvelope, hcurrent]
  refine Consumes.consuming (e.spares_orWarn.guards.bind fun d => ?_)
  refine e.spares_saltOrFresh.guards.bind fun salt => ?_
  exact (e.consumes_encrypt _ message salt _).guards.bind fun data => Spares.pure.guards

/-- **A request that claims its password first consumes it**, also when the settings cannot be read. -/
theorem perform_consumes_of_claimsFirst {request : Request} (h : request.claimsFirst = true) :
    Consumes (e.perform request) := by
  cases request with
  | encrypterFor scheme salt iterations =>
    exact (e.consumes_encrypterFor scheme salt iterations).bind fun _ => Spares.pure
  | decrypterFor algorithm => exact (e.consumes_decrypterFor algorithm).bind fun _ => Spares.pure
  | encrypt scheme message salt iterations =>
    exact (e.consumes_encrypt scheme message salt iterations).bind fun _ => Spares.pure
  | decrypt offered => exact (e.consumes_decrypt offered).bind fun _ => Spares.pure
  | encryptEnvelope message scheme iterations salt => exact absurd h (by simp [Request.claimsFirst])

/-- **Every request consumes its password**, if the engine has settings. -/
theorem perform_consumes {settings : Settings} (h : e.settings = some settings) (request : Request) :
    Consumes (e.perform request) := by
  cases request with
  | encryptEnvelope message scheme iterations salt =>
    exact (e.consumes_encryptEnvelope h message scheme iterations salt).bind fun _ => Spares.pure
  | _ => exact e.perform_consumes_of_claimsFirst rfl

end Engine

/-! ### The caller's secret afterwards -/

namespace Secret

/-- What is left of a secret that was consumed: a buffer is zeroed in place, everything else stays. -/
def consumed : Secret → Secret
  | buffer bs => buffer (Bytes.wiped bs)
  | s => s

/-- Consuming once more makes no difference. -/
@[simp] theorem consumed_consumed (s : Secret) : s.consumed.consumed = s.consumed := by
  cases s <;> simp [consumed, Bytes.wiped]

/-- A secret cannot be claimed if it has no octets. -/
theorem claim_eq_error_iff {s : Secret} {failure : Failure} :
    ({ offered := s } : Custody).claim = .error failure
      ↔ s.octets? = none ∧ failure = .misuse .secretKind := by
  cases s <;> simp [Custody.claim, octets?, eq_comm]

/-- A secret that is offered, claimed and wiped is consumed. -/
theorem settle_wipe_of_claim {s : Secret} {claimed : Custody}
    (h : ({ offered := s } : Custody).claim = .ok claimed) : claimed.wipe.settle = s.consumed := by
  cases s <;> simp only [Custody.claim, octets?, Except.ok.injEq, reduceCtorEq] at h
  all_goals
    subst h
    rfl

/-- A secret that cannot be claimed has nothing to wipe. -/
theorem settle_of_octets?_eq_none {s : Secret} (h : s.octets? = none) :
    ({ offered := s } : Custody).settle = s.consumed := by
  rw [Custody.settle_of_unclaimed]
  cases s <;> simp only [octets?, reduceCtorEq] at h
  all_goals rfl

end Secret

namespace Op.Consumes

variable {x : Op α} {s : Secret}

/-- **The caller's secret is consumed**, whatever the operation gives. -/
theorem settle (hx : Consumes x) (s : Secret) (session : Session) :
    (x (.offering s session)).2.custody.settle = s.consumed := by
  cases hclaim : ({ offered := s } : Custody).claim with
  | ok claimed =>
    rw [hx.wiped (.offering s session) claimed hclaim]
    exact Secret.settle_wipe_of_claim hclaim
  | error failure =>
    rw [(hx.refused (.offering s session) failure hclaim).2]
    exact Secret.settle_of_octets?_eq_none (Secret.claim_eq_error_iff.mp hclaim).1

/-- What has no octets is refused as a secret. -/
theorem result_of_octets?_eq_none (hx : Consumes x) (h : s.octets? = none) (session : Session) :
    x.result (.offering s session) = .error (.misuse .secretKind) :=
  (hx.refused (.offering s session) _ (Secret.claim_eq_error_iff.mpr ⟨h, rfl⟩)).1

end Op.Consumes

end Shroud
