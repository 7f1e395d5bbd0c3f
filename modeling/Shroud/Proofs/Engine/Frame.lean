import Shroud.Proofs.Engine.Tools

/-!
# What a call leaves alone

The engine is written with a few steps: what is confined to the password, notes, operations under a name, work that
consumes the password, and reading the settings. A property of operations that holds of these, and of one operation
after another, is `Engine.Closed`, and holds of everything that the engine does (`Engine.Closed.perform`). Only where a
salt may be drawn is there one step more.

Two such properties are shown here.

* `Op.Blind`: the other secrets of the client make no difference, and none is made to them. So a request in a workspace
  is the request on the offered password alone, and whatever else lies there stays (`Workspace.perform_eq`).
* `Op.Tidy`: the tools of the call stay as they are, and those that are made are cleared (`Engine.tools_perform`).
-/

namespace Shroud

variable {α β : Type}

namespace Engine

open Op (Confined)

/-- **A property is closed under the steps of the engine.** -/
structure Closed (e : Engine) (P : ∀ {α : Type}, Op α → Prop) : Prop where
  confined : ∀ {α : Type} {x : Op α}, Confined x → P x
  bind : ∀ {α β : Type} {x : Op α} {f : α → Op β}, P x → (∀ a, P (f a)) → P (x >>= f)
  consuming : ∀ {α : Type} {work : Op α}, P work → P (Op.consuming work)
  note : ∀ severity message fields, P (e.note severity message fields)
  logged : ∀ {α : Type} (name : String) {work : Op α}, P work → P (e.logged name work)
  currentSettings : P e.currentSettings

namespace Closed

variable {e : Engine} {P : ∀ {α : Type}, Op α → Prop}

theorem orWarn (h : e.Closed P) (message field : String) (found : Except Failure Descriptor) :
    P (e.orWarn message field found) := by
  unfold Engine.orWarn
  split
  · exact h.confined .ofResult
  · exact h.bind (h.note ..) fun _ => h.confined .fail
  · exact h.confined .fail

theorem encrypterFor (h : e.Closed P) (scheme : Value) (salt : Bytes) (iterations : Int) :
    P (e.encrypterFor scheme salt iterations) :=
  h.consuming (h.bind (h.orWarn ..) fun d => h.confined (e.confined_buildMode d salt iterations .encrypt))

theorem decrypterFor (h : e.Closed P) (algorithm : AlgorithmId) : P (e.decrypterFor algorithm) := by
  refine h.consuming (h.bind (h.orWarn ..) fun d => h.bind h.currentSettings fun settings => ?_)
  exact h.bind (h.confined .ofResult) fun p => h.confined (e.confined_buildMode d p.salt p.iterations .decrypt)

theorem encrypt (h : e.Closed P) (scheme : Value) (message : Option Bytes) (salt : Bytes) (iterations : Int) :
    P (e.encrypt scheme message salt iterations) := by
  refine h.logged _ (h.bind (h.encrypterFor scheme salt iterations) fun mode => ?_)
  refine h.bind (h.confined .ofResult) fun message => ?_
  refine h.bind (h.confined (confined_encryptPadded mode message)) fun encrypted => ?_
  exact h.bind (h.note ..) fun _ => h.confined .pure

theorem opening (h : e.Closed P) (offered : Option Envelope) : P (e.opening offered) := by
  cases offered with
  | none => exact h.consuming (h.confined .fail)
  | some envelope =>
    refine h.consuming (h.bind (h.orWarn ..) fun d => h.bind (h.confined .ofResult) fun _ => ?_)
    exact h.bind (h.decrypterFor envelope.algorithm) fun mode => h.confined .pure

theorem decrypt (h : e.Closed P) (offered : Option Envelope) : P (e.decrypt offered) :=
  h.logged _ (h.bind (h.opening offered) fun opened => h.confined (confined_decryptPadded opened.1 opened.2))

/-- An envelope may need a salt that is drawn. -/
theorem encryptEnvelope (h : e.Closed P) (hsalt : ∀ length salt, P (e.saltOrFresh length salt))
    (message : Option Bytes) (scheme : Value) (iterations : Option Int) (salt : Option Bytes) :
    P (e.encryptEnvelope message scheme iterations salt) := by
  refine h.bind h.currentSettings fun settings => h.consuming (h.bind (h.orWarn ..) fun d => ?_)
  refine h.bind (hsalt settings.saltLength salt) fun used => ?_
  exact h.bind (h.encrypt _ message used _) fun data => h.confined .pure

/-- **What holds of the steps of the engine** holds of every request, if it holds of drawing a salt. -/
theorem perform (h : e.Closed P) (hsalt : ∀ length salt, P (e.saltOrFresh length salt)) (request : Request) :
    P (e.perform request) := by
  -- what is left of each request is to name its answer
  cases request with
  | encrypterFor scheme salt iterations =>
    exact h.bind (h.encrypterFor scheme salt iterations) fun _ => h.confined .pure
  | decrypterFor algorithm => exact h.bind (h.decrypterFor algorithm) fun _ => h.confined .pure
  | encrypt scheme message salt iterations =>
    exact h.bind (h.encrypt scheme message salt iterations) fun _ => h.confined .pure
  | decrypt offered => exact h.bind (h.decrypt offered) fun _ => h.confined .pure
  | encryptEnvelope message scheme iterations salt =>
    exact h.bind (h.encryptEnvelope hsalt message scheme iterations salt) fun _ => h.confined .pure

end Closed

end Engine

/-! ### The secrets beside the password -/

/-- **An operation is blind to the other secrets**: they make no difference to it, and it leaves them as they are. -/
def Op.Blind (x : Op α) : Prop :=
  ∀ c others, x { c with others } = ((x c).1, { (x c).2 with others })

namespace Op.Blind

/-- A step confined to the password and its tools reads no other secret. -/
theorem of_confined {x : Op α} (h : Confined x) : Blind x := by
  obtain ⟨f, -, hf⟩ := h
  intro c others
  rw [hf, hf]

/-- Two blind steps in a row are blind. -/
theorem bind {x : Op α} {f : α → Op β} (hx : Blind x) (hf : ∀ a, Blind (f a)) : Blind (x >>= f) := by
  intro c others
  rw [bind_apply, bind_apply, hx c others]
  cases hres : x c with
  | mk result c' =>
    cases result with
    | ok a => exact hf a c' others
    | error failure => rfl

theorem consuming {work : Op α} (h : Blind work) : Blind (Op.consuming work) := by
  intro c others
  unfold Op.consuming
  dsimp only
  -- the password is all that is claimed, and it is not among the others
  cases c.custody.claim with
  | error failure => rfl
  | ok claimed =>
    have hwork := h { c with custody := claimed } others
    dsimp only at hwork ⊢
    rw [hwork]

end Op.Blind

namespace Engine

variable (e : Engine)

/-- The journal knows nothing of the other secrets. -/
theorem blind_logged (name : String) {work : Op α} (h : Op.Blind work) : Op.Blind (e.logged name work) := by
  intro c others
  -- the work starts in a call with another journal, and the same secrets beside the password
  have hwork := h (c.withJournal ((c.session.journal.tick e.around).2.enter e.around name)) others
  have hinside :
      work (Call.withJournal ((c.session.journal.tick e.around).2.enter e.around name) { c with others }) = _ :=
    hwork
  unfold logged Op.logged Journal.timed
  dsimp only
  rw [hinside]
  rfl

/-- **No request looks at the other secrets, or changes them.** -/
theorem blind_perform (request : Request) : Op.Blind (e.perform request) := by
  refine Closed.perform (P := @Op.Blind)
    ⟨.of_confined, .bind, .consuming, fun _ _ _ _ _ => rfl, e.blind_logged, ?_⟩ ?_ request
  · intro c others
    rfl
  · intro length salt c others
    cases salt <;> rfl

end Engine

/-- **A request in a workspace** is the request on the password that is offered. What is left of the password is put in
its place, and everything else that lies there stays. -/
theorem Workspace.perform_eq (w : Workspace) (e : Engine) (name : String) (request : Request) :
    w.perform e name request = (w.secret? name).map fun s =>
      ((e.perform request).result (.offering s w.session),
        { (w.put name (e.perform request (.offering s w.session)).2.custody.settle) with
          session := (e.perform request (.offering s w.session)).2.session }) := by
  refine congrArg (fun f => (w.secret? name).map f) (funext fun s => ?_)
  have hblind : e.perform request (w.offering s) = _ := e.blind_perform request (.offering s w.session) w.secrets
  dsimp only
  rw [hblind]
  rfl

/-! ### The tools of a call -/

/-- **An operation is tidy**: the tools of the call stay as they are, and those that it makes are cleared. -/
def Op.Tidy (x : Op α) : Prop :=
  ∀ c, ∃ made, (x c).2.tools = c.tools ++ made ∧ ∀ tool ∈ made, tool.cleared = tool

namespace Op.Tidy

/-- A confined step has cleared its tools by its end. -/
theorem of_confined {x : Op α} (h : Confined x) : Tidy x := by
  obtain ⟨f, hcleared, hf⟩ := h
  intro c
  rw [hf]
  exact ⟨_, rfl, hcleared c.custody⟩

/-- What leaves the tools alone is tidy. -/
theorem of_tools_eq {x : Op α} (h : ∀ c, (x c).2.tools = c.tools) : Tidy x :=
  fun c => ⟨[], by rw [h, List.append_nil], fun _ htool => absurd htool List.not_mem_nil⟩

/-- The tools of two steps in a row are those of both. -/
theorem bind {x : Op α} {f : α → Op β} (hx : Tidy x) (hf : ∀ a, Tidy (f a)) : Tidy (x >>= f) := by
  intro c
  obtain ⟨made, htools, hcleared⟩ := hx c
  -- a step that fails still leaves its own tools behind, wiped
  obtain ⟨a, c', hres, hbind⟩ | ⟨failure, c', hres, hbind⟩ := bind_cases x f c
  · rw [hres] at htools
    obtain ⟨made', htools', hcleared'⟩ := hf a c'
    refine ⟨made ++ made', ?_, List.forall_mem_append.mpr ⟨hcleared, hcleared'⟩⟩
    rw [hbind, htools', htools, List.append_assoc]
  · rw [hres] at htools
    exact ⟨made, by rw [hbind, htools], hcleared⟩

theorem consuming {work : Op α} (h : Tidy work) : Tidy (Op.consuming work) := by
  intro c
  unfold Op.consuming
  cases c.custody.claim with
  | error failure => exact of_confined .fail c
  | ok claimed => exact h { c with custody := claimed }

end Op.Tidy

/-- **Nothing is left of a call.** Whatever is asked for and however it ends, each buffer that was made for it is wiped
and each cipher closed. -/
theorem Engine.tools_perform (e : Engine) (request : Request) (c : Call) :
    ∃ made, (e.perform request c).2.tools = c.tools ++ made ∧ ∀ tool ∈ made, tool.cleared = tool := by
  have hlogged : ∀ {α : Type} (name : String) {work : Op α}, Op.Tidy work → Op.Tidy (e.logged name work) :=
    fun name work hwork c => hwork (c.withJournal ((c.session.journal.tick e.around).2.enter e.around name))
  refine Closed.perform (P := @Op.Tidy)
    ⟨.of_confined, .bind, .consuming, fun _ _ _ => .of_tools_eq fun _ => rfl, hlogged,
      .of_tools_eq fun _ => rfl⟩ ?_ request c
  intro length salt
  cases salt <;> exact .of_tools_eq fun _ => rfl

end Shroud
