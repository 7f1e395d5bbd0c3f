import Shroud.Proofs.Engine.History
import Shroud.Proofs.Engine.RoundTrip
import Shroud.Proofs.Engine.Trace

/-!
# Envelopes describe themselves

An envelope is made in three places: a salt is given or drawn, the message is encrypted under it, and the parameters are
encoded beside the ciphertext. `Envelope.Describes` says that the three belong together: the envelope names its scheme,
its parameters decode to the salt and the count that were used, and encrypting the message under them gives its data.

Salts come from one random source, which is a numbered row of octets. Of all that the engine does only one step draws
from it: every other part keeps what neither the journal nor the reading of settings changes (`Engine.Steady`,
`Op.Keeps`), and how far the source was drawn is one such thing. So a call draws the salt of its envelope or nothing
(`Engine.encryptEnvelope_cases`), whether it succeeds or fails after that, and over a run the octets that are drawn are
the next ones of the source, each of them once.

`Workspace.history_self_describing` says both of every run.
-/

namespace Shroud

variable {α β γ : Type}

/-! ### What calls keep -/

/-- **An operation keeps a part of the session.** -/
def Op.Keeps (view : Session → γ) (x : Op α) : Prop :=
  ∀ c, view (x c).2.session = view c.session

namespace Op.Keeps

variable {view : Session → γ}

/-- What is confined to the password keeps the whole session. -/
theorem of_confined {x : Op α} (h : Confined x) : Keeps view x := by
  obtain ⟨f, -, hf⟩ := h
  intro c
  rw [hf]

/-- A view that both steps keep is kept. -/
theorem bind {x : Op α} {f : α → Op β} (hx : Keeps view x) (hf : ∀ a, Keeps view (f a)) : Keeps view (x >>= f) :=
  kept_bind (fun c => view c.session) hx hf

theorem consuming {work : Op α} (h : Keeps view work) : Keeps view (Op.consuming work) := by
  intro c
  unfold Op.consuming
  -- neither the claim nor the wipe touches the session
  cases c.custody.claim with
  | error failure => rfl
  | ok claimed => exact h { c with custody := claimed }

end Op.Keeps

namespace Engine

variable {e : Engine}

open Op (Keeps)

/-- **A part of the session that stands still**: neither the journal nor reading the settings changes it. -/
structure Steady (e : Engine) (view : Session → γ) : Prop where
  journal : ∀ s j, view { s with journal := j } = view s
  settings : ∀ s, view (e.settingsIn s).2 = view s

/-- Reading settings draws nothing. -/
theorem steady_drawn : e.Steady (·.drawn) where
  journal _ _ := rfl
  settings s := by
    unfold settingsIn Session.settings
    -- settings are given, known already, or loaded
    cases e.settings with
    | some settings => rfl
    | none =>
      cases s.known with
      | some settings => rfl
      | none => cases Settings.load s.sources <;> rfl

/-- Settings that were read once are read again. -/
theorem steady_settingsIn : e.Steady fun s => (e.settingsIn s).1 where
  journal _ _ := e.settingsIn_congr rfl rfl
  settings s := by
    unfold settingsIn Session.settings
    cases e.settings with
    | some settings => rfl
    | none =>
      cases hknown : s.known with
      | some settings => simp only [hknown]
      -- what was loaded once is known, and is the same the next time
      | none => cases hload : Settings.load s.sources <;> simp only [hload, hknown]

namespace Steady

variable {view : Session → γ}

/-- An operation of the journal keeps what the work inside it keeps. -/
theorem keeps_logged (h : e.Steady view) (name : String) {work : Op α} (hwork : Keeps view work) :
    Keeps view (e.logged name work) := by
  intro c
  let j := (c.session.journal.tick e.around).2.enter e.around name
  calc view (e.logged name work c).2.session
      = view (work (c.withJournal j)).2.session := h.journal _ _
    _ = view (c.withJournal j).session := hwork _
    _ = view c.session := h.journal _ _

/-- **What stands still is kept** by all steps of the engine. -/
theorem closed (h : e.Steady view) : e.Closed (Keeps view) where
  confined := .of_confined
  bind := .bind
  consuming := .consuming
  note _ _ _ := fun c => h.journal c.session _
  logged name _ := h.keeps_logged name
  currentSettings := fun c => h.settings c.session

/-- **Requests keep what stands still**, as long as drawing octets does not change it. -/
theorem keeps_perform (h : e.Steady view) (hdrawn : ∀ s n, view { s with drawn := n } = view s)
    (request : Request) : Keeps view (e.perform request) := by
  refine h.closed.perform (fun length salt => ?_) request
  cases salt with
  | some given => exact .of_confined .ofResult
  | none => exact fun c => hdrawn c.session _

end Steady

/-! ### Salts -/

/-- The salt of an envelope: the one that is given, or the octets of the random source at some positions. -/
def saltAt (e : Engine) (positions : List Nat) (salt : Option Bytes) : Bytes :=
  salt.getD (positions.map e.around.random)

/-- How many octets are drawn for a salt: none for one that is given. -/
def drawnFor (settings : Settings) (salt : Option Bytes) : Nat :=
  match salt with
  | some _ => 0
  | none => settings.saltLength

/-- **A salt is handed over, or drawn from the next positions.** -/
theorem saltOrFresh_eq_drawn (settings : Settings) (salt : Option Bytes) (c : Call) :
    ∃ c', e.saltOrFresh settings.saltLength salt c
        = (.ok (e.saltAt (List.range' c.session.drawn (drawnFor settings salt)) salt), c')
      ∧ c'.custody = c.custody ∧ c'.session.drawn = c.session.drawn + drawnFor settings salt := by
  cases salt with
  | some given => exact ⟨c, rfl, rfl, rfl⟩
  | none =>
    refine ⟨{ c with session := (c.session.draw e.around settings.saltLength).2 }, ?_, rfl, rfl⟩
    have hpositions : (List.range' c.session.drawn settings.saltLength).map e.around.random
        = (c.session.draw e.around settings.saltLength).1 := by
      rw [List.range'_eq_map_range, List.map_map]
      rfl
    rw [saltAt, drawnFor, Option.getD_none, hpositions]
    rfl

/-- Encrypting into an envelope, once the settings are read and the password is claimed. -/
def sealing (e : Engine) (settings : Settings) (message : Option Bytes) (scheme : Value) (iterations : Option Int)
    (salt : Option Bytes) : Op Envelope := do
  let d ← e.scheme (schemeOrDefault settings scheme)
  let iterations := iterations.getD settings.defaultIterations
  let salt ← e.saltOrFresh settings.saltLength salt
  let data ← e.encrypt (.scheme d.scheme) message salt iterations
  return ⟨⟨.text d.oid, Parameters.encode ⟨salt, iterations⟩⟩, data⟩

/-- **An envelope is made** in a call that holds a password: how far the source was drawn before, and how far it is
drawn and what the result is after. The salt is the one that is given, or the octets that are drawn here. -/
structure Sealed (e : Engine) (settings : Settings) (message : Option Bytes) (scheme : Value) (iterations : Option Int)
    (salt : Option Bytes) (password : Bytes) (before after : Nat) (result : Except Failure Envelope) : Prop where
  drawn : after = before + drawnFor settings salt
  made : ∃ s c', Descriptor.ofScheme (schemeOrDefault settings scheme) = .ok (Scheme.descriptor s)
    ∧ c'.Holds password
    ∧ result = ((e.encrypt (.scheme s) message (e.saltAt (List.range' before (drawnFor settings salt)) salt)
        (iterations.getD settings.defaultIterations)).result c').map
      (envelopeOf s (e.saltAt (List.range' before (drawnFor settings salt)) salt)
        (iterations.getD settings.defaultIterations))

/-- Sealing fails before anything is drawn, or draws what it needs and goes on to encrypt. -/
theorem sealing_cases (settings : Settings) (message : Option Bytes) (scheme : Value) (iterations : Option Int)
    (salt : Option Bytes) {c : Call} {password : Bytes} (hc : c.Holds password) :
    (∃ failure, (e.sealing settings message scheme iterations salt).result c = .error failure
        ∧ (e.sealing settings message scheme iterations salt c).2.session.drawn = c.session.drawn)
      ∨ e.Sealed settings message scheme iterations salt password c.session.drawn
        (e.sealing settings message scheme iterations salt c).2.session.drawn
        ((e.sealing settings message scheme iterations salt).result c) := by
  cases hfound : Descriptor.ofScheme (schemeOrDefault settings scheme) with
  | error failure =>
    have hlookup : e.scheme (schemeOrDefault settings scheme) c
        = (.error failure, (e.scheme (schemeOrDefault settings scheme) c).2) := by
      refine Prod.ext ?_ rfl
      rw [← hfound]
      exact e.result_orWarn _ _ _ c
    refine .inl ⟨failure, ?_, ?_⟩
    · rw [Op.result, sealing, Op.bind_of_error hlookup]
    · rw [sealing, Op.bind_of_error hlookup]
      exact steady_drawn.closed.orWarn _ _ _ c
  | ok d =>
    obtain ⟨s, rfl⟩ := Descriptor.ofScheme_eq_ok hfound
    have hlookup : e.scheme (schemeOrDefault settings scheme) c = (.ok s.descriptor, c) := by
      rw [Engine.scheme, hfound]
      rfl
    -- the scheme is there, so the salt comes next, and nothing else draws
    obtain ⟨c', hsalt, hcustody, hdrawn⟩ := e.saltOrFresh_eq_drawn settings salt c
    refine .inr ⟨?_, s, c', hfound, hc.of_custody hcustody, ?_⟩
    · rw [sealing, Op.bind_of_ok hlookup, Op.bind_of_ok hsalt, Op.call_bind_pure]
      exact (steady_drawn.closed.encrypt _ _ _ _ c').trans hdrawn
    · rw [sealing, Op.result_bind_of_ok hlookup, Op.result_bind_of_ok hsalt, Op.result_bind_pure,
        Scheme.scheme_descriptor, Scheme.oid_descriptor]
      rfl

/-- **What encrypting into an envelope does**: it fails before it draws anything, or an envelope is made under the salt
that is given or drawn, as far as encrypting succeeds. -/
theorem encryptEnvelope_cases (message : Option Bytes) (scheme : Value) (iterations : Option Int)
    (salt : Option Bytes) (c : Call) :
    (∃ failure, (e.encryptEnvelope message scheme iterations salt).result c = .error failure
        ∧ (e.encryptEnvelope message scheme iterations salt c).2.session.drawn = c.session.drawn)
      ∨ ∃ settings password, (e.settingsIn c.session).1 = .ok settings ∧ c.Holds password
        ∧ e.Sealed settings message scheme iterations salt password c.session.drawn
          (e.encryptEnvelope message scheme iterations salt c).2.session.drawn
          ((e.encryptEnvelope message scheme iterations salt).result c) := by
  have hread : (e.currentSettings c).2.session.drawn = c.session.drawn :=
    steady_drawn.closed.currentSettings c
  cases hsettings : (e.settingsIn c.session).1 with
  | error failure =>
    have hcurrent : e.currentSettings c = (.error failure, (e.currentSettings c).2) := Prod.ext hsettings rfl
    refine .inl ⟨failure, ?_, ?_⟩
    · rw [Op.result, encryptEnvelope, Op.bind_of_error hcurrent]
    · rw [encryptEnvelope, Op.bind_of_error hcurrent, hread]
  | ok settings =>
    obtain ⟨c₁, hcurrent, hcustody⟩ := e.currentSettings_eq hsettings
    rw [hcurrent] at hread
    have hwork : e.encryptEnvelope message scheme iterations salt c
        = Op.consuming (e.sealing settings message scheme iterations salt) c₁ := Op.bind_of_ok hcurrent _
    unfold Op.result
    rw [hwork]
    -- without a password nothing is drawn
    cases hclaim : c₁.custody.claim with
    | error failure =>
      refine .inl ⟨failure, ?_, ?_⟩
      · simp only [Op.consuming, hclaim]
      · simp only [Op.consuming, hclaim]
        exact hread
    | ok claimed =>
      have hc₁ : c₁.Holds claimed.octets := ⟨claimed, hclaim, rfl⟩
      obtain ⟨c₂, hc₂, -, hsession, hconsuming⟩ := hc₁.consuming_eq (α := Envelope)
      have hcases := sealing_cases (e := e) settings message scheme iterations salt hc₂
      rw [hsession, hread] at hcases
      rw [hconsuming]
      obtain hfailed | hsealed := hcases
      · exact .inl hfailed
      · exact .inr ⟨settings, claimed.octets, rfl, hc₁.of_custody hcustody.symm, hsealed⟩

/-- How far a request draws the random source: as far as the salt of an envelope needs, or not at all. -/
theorem drawn_perform_le (request : Request) (c : Call) :
    c.session.drawn ≤ (e.perform request c).2.session.drawn := by
  -- four of the five requests draw nothing
  have hkept : ∀ {γ : Type} {x : Op γ} (g : γ → Reply), Keeps (·.drawn) x →
      c.session.drawn ≤ ((x >>= fun a => pure (g a)) c).2.session.drawn := by
    intro γ x g hx
    rw [Op.call_bind_pure]
    exact Nat.le_of_eq (hx c).symm
  cases request with
  | encrypterFor scheme salt iterations => exact hkept .mode (steady_drawn.closed.encrypterFor scheme salt iterations)
  | decrypterFor algorithm => exact hkept .mode (steady_drawn.closed.decrypterFor algorithm)
  | encrypt scheme message salt iterations =>
    exact hkept .octets (steady_drawn.closed.encrypt scheme message salt iterations)
  | decrypt offered => exact hkept .octets (steady_drawn.closed.decrypt offered)
  | encryptEnvelope message scheme iterations salt =>
    have hcall : (e.perform (.encryptEnvelope message scheme iterations salt) c).2
        = (e.encryptEnvelope message scheme iterations salt c).2 := Op.call_bind_pure _ Reply.envelope c
    rw [hcall]
    obtain ⟨failure, -, hdrawn⟩ | ⟨settings, password, -, -, hsealed⟩ :=
      e.encryptEnvelope_cases message scheme iterations salt c
    · rw [hdrawn]
    · rw [hsealed.drawn]
      exact Nat.le_add_right _ _

/-! ### What an envelope records -/

/-- A message without octets is never encrypted. -/
theorem exists_error_encrypt_none (scheme : Value) (salt : Bytes) (iterations : Int) (c : Call) :
    ∃ failure, (e.encrypt scheme none salt iterations).result c = .error failure := by
  obtain ⟨j, hlogged⟩ := e.result_logged (α := Bytes) "pbe_encrypt" c
  rw [encrypt, hlogged, Op.result]
  -- without a mode there is its failure, and with one the message is refused
  obtain ⟨mode, c', -, hbind⟩ | ⟨failure, c', -, hbind⟩ := Op.bind_cases (e.encrypterFor scheme salt iterations) _ _
  · rw [hbind]
    exact ⟨.misuse .messageKind, rfl⟩
  · rw [hbind]
    exact ⟨failure, rfl⟩

end Engine

/-- **An envelope describes itself**: it names its scheme, its parameters decode to those it was made with, and
encrypting the message under them gives its data, in every call that holds the password. -/
structure Envelope.Describes (envelope : Envelope) (e : Engine) (password : Bytes) (message : Option Bytes)
    (s : Scheme) (p : Parameters) : Prop where
  scheme : envelope.algorithm.algorithm = .text s.oid
  parameters : p.Fits → Parameters.decode envelope.algorithm.parameters = .ok p
  data : ∀ c : Call, c.Holds password →
    (e.encrypt (.scheme s) message p.salt p.iterations).result c = .ok envelope.data

namespace Engine

variable {e : Engine}

/-- **An envelope that is made describes itself.** -/
theorem describes_of_encrypt (hfunction : e.function = Derivation.derive) {c : Call} {password : Bytes}
    (hc : c.Holds password) {message : Option Bytes} {s : Scheme} {p : Parameters} {data : Bytes}
    (h : (e.encrypt (.scheme s) message p.salt p.iterations).result c = .ok data) :
    (envelopeOf s p.salt p.iterations data).Describes e password message s p := by
  cases message with
  | none =>
    obtain ⟨failure, hfailure⟩ := e.exists_error_encrypt_none (.scheme s) p.salt p.iterations c
    exact absurd (hfailure.symm.trans h) (by simp)
  | some message =>
    have hresult : ∀ c' : Call, c'.Holds password →
        (e.encrypt (.scheme s) (some message) p.salt p.iterations).result c'
          = e.encrypted s.descriptor password message p.salt p.iterations := by
      intro c' hc'
      rw [e.result_encrypt hc', Descriptor.ofScheme_scheme]
      rfl
    have hencrypted : e.encrypted s.descriptor password message p.salt p.iterations = .ok data :=
      (hresult c hc).symm.trans h
    -- a count that something was encrypted under is positive, so it also decodes
    have hpos : 1 ≤ p.iterations := one_le_of_encrypted hfunction hencrypted
    refine ⟨rfl, fun hfits => ?_, fun c' hc' => (hresult c' hc').trans hencrypted⟩
    exact (Parameters.decode_encode_eq_ok_iff hfits none p).mpr ⟨rfl, hpos, by simp⟩

/-- **An envelope of the scheme is returned** when the settings can be read, the scheme is known, and the count is
positive. -/
theorem exists_envelopeOf (hfunction : e.function = Derivation.derive) {c : Call} {password : Bytes}
    (hc : c.Holds password) {settings : Settings} (hsettings : (e.settingsIn c.session).1 = .ok settings)
    {scheme : Value} {s : Scheme} (hfound : Descriptor.ofScheme (schemeOrDefault settings scheme) = .ok s.descriptor)
    {iterations : Option Int} (hpos : 1 ≤ iterations.getD settings.defaultIterations) (message : Bytes)
    (salt : Option Bytes) :
    ∃ used data, (e.encryptEnvelope (some message) scheme iterations salt).result c
      = .ok (envelopeOf s used (iterations.getD settings.defaultIterations) data) := by
  obtain ⟨used, -, hresult⟩ := e.result_encryptEnvelope hc hsettings message scheme iterations salt
  obtain ⟨data, hdata⟩ := exists_encrypted hfunction s password message used hpos
  refine ⟨used, data, ?_⟩
  rw [hresult, hfound]
  change (e.encrypted s.descriptor password message used _ >>= fun data => .ok _) = _
  rw [hdata, s.oid_descriptor]
  rfl

/-- With a scheme and a positive count there is an envelope. -/
theorem exists_encryptEnvelope (hfunction : e.function = Derivation.derive) {c : Call} {password : Bytes}
    (hc : c.Holds password) {settings : Settings} (hsettings : (e.settingsIn c.session).1 = .ok settings)
    {scheme : Value} {s : Scheme} (hfound : Descriptor.ofScheme (schemeOrDefault settings scheme) = .ok s.descriptor)
    {iterations : Option Int} (hpos : 1 ≤ iterations.getD settings.defaultIterations) (message : Bytes)
    (salt : Option Bytes) :
    ∃ envelope, (e.encryptEnvelope (some message) scheme iterations salt).result c = .ok envelope := by
  obtain ⟨used, data, hresult⟩ := exists_envelopeOf hfunction hc hsettings hfound hpos message salt
  exact ⟨_, hresult⟩

end Engine

namespace Workspace

variable {e : Engine} {w : Workspace}

/-- How far the random source was drawn. -/
def drawn (w : Workspace) : Nat :=
  w.session.drawn

/-- The positions of the random source that a call draws. -/
def Exchange.draws (x : Exchange) : List Nat :=
  x.span drawn

/-- **How a call for an envelope goes**: it draws nothing and fails, or it draws the octets of a salt that is not given,
and gives an envelope if encrypting succeeds. -/
theorem Exchange.Made.envelope_cases {x : Exchange} (h : x.Made e) {message : Option Bytes} {scheme : Value}
    {iterations : Option Int} {salt : Option Bytes}
    (hrequest : x.request = .encryptEnvelope message scheme iterations salt) :
    (∃ failure, x.reply = .error failure ∧ x.draws = [])
      ∨ ∃ settings password result, (e.settingsIn x.before.session).1 = .ok settings ∧ x.password? = some password
        ∧ e.Sealed settings message scheme iterations salt password x.before.drawn x.after.drawn result
        ∧ x.reply = result.map .envelope
        ∧ x.draws = List.range' x.before.drawn (Engine.drawnFor settings salt) := by
  obtain ⟨s, hs, hreply, hafter⟩ := h.exists_offered
  rw [hrequest] at hreply hafter
  have hreply : x.reply = ((e.encryptEnvelope message scheme iterations salt).result
      (.offering s x.before.session)).map .envelope := hreply.trans (Op.result_bind_pure _ _ _)
  have hdrawn : x.after.drawn = (e.encryptEnvelope message scheme iterations salt
      (.offering s x.before.session)).2.session.drawn := by
    rw [drawn, hafter]
    exact congrArg (·.session.drawn) (Op.call_bind_pure _ _ _)
  obtain ⟨failure, hfailed, hkept⟩ | ⟨settings, password, hsettings, hholds, hsealed⟩ :=
    e.encryptEnvelope_cases message scheme iterations salt (.offering s x.before.session)
  · refine .inl ⟨failure, ?_, ?_⟩
    · rw [hreply, hfailed]
      rfl
    -- nothing was drawn, so the span is empty
    · have hsame : x.after.drawn = x.before.drawn := hdrawn.trans hkept
      rw [draws, span, hsame, Nat.sub_self]
      rfl
  · rw [← hdrawn] at hsealed
    refine .inr ⟨settings, password, _, hsettings, ?_, hsealed, hreply, ?_⟩
    · rw [password?, hs, Option.bind_some, hholds.octets?_eq]
    · have hafter : x.after.drawn = x.before.drawn + Engine.drawnFor settings salt := hsealed.drawn
      rw [draws, span, hafter, Nat.add_sub_cancel_left]

/-- **What an envelope that is returned describes**: the scheme and the count that were asked for or are the default,
and the salt that was given or drawn. -/
theorem Exchange.Made.describes (hfunction : e.function = Derivation.derive) {x : Exchange} (h : x.Made e)
    {message : Option Bytes} {scheme : Value} {iterations : Option Int} {salt : Option Bytes}
    (hrequest : x.request = .encryptEnvelope message scheme iterations salt) {envelope : Envelope}
    (hreply : x.reply = .ok (.envelope envelope)) :
    ∃ settings password s, (e.settingsIn x.before.session).1 = .ok settings ∧ x.password? = some password
      ∧ Descriptor.ofScheme (Engine.schemeOrDefault settings scheme) = .ok (Scheme.descriptor s)
      ∧ x.draws.length = Engine.drawnFor settings salt
      ∧ envelope.Describes e password message s
        ⟨salt.getD (x.draws.map e.around.random), iterations.getD settings.defaultIterations⟩ := by
  obtain ⟨failure, hfailed, -⟩ | ⟨settings, password, result, hsettings, hpassword, hsealed, hresult, hdraws⟩ :=
    h.envelope_cases hrequest
  · exact absurd (hfailed.symm.trans hreply) (by simp)
  · obtain ⟨s, c', hfound, hc', hmade⟩ := hsealed.made
    obtain ⟨sealed, hsealed, hsame⟩ := map_eq_ok_iff.mp (hresult.symm.trans hreply)
    obtain rfl := Reply.envelope.inj hsame
    obtain ⟨data, hdata, rfl⟩ := map_eq_ok_iff.mp (hmade.symm.trans hsealed)
    -- the parameters name the salt at the positions that were drawn
    refine ⟨settings, password, s, hsettings, hpassword, hfound, ?_, ?_⟩
    · rw [hdraws, List.length_range']
    · rw [hdraws]
      let p : Parameters := ⟨e.saltAt (List.range' x.before.drawn (Engine.drawnFor settings salt)) salt,
        iterations.getD settings.defaultIterations⟩
      exact Engine.describes_of_encrypt (p := p) hfunction hc' hdata

/-- Positions are never given back. -/
theorem drawn_le_of_made {x : Exchange} (h : x.Made e) : x.before.drawn ≤ x.after.drawn := by
  obtain ⟨s, -, -, hafter⟩ := h.exists_offered
  rw [drawn, drawn, hafter]
  exact Engine.drawn_perform_le x.request (.offering s x.before.session)

/-- The settings that count are the same before every call. -/
theorem settingsIn_of_made {x : Exchange} (h : x.Made e) :
    (e.settingsIn x.after.session).1 = (e.settingsIn x.before.session).1 := by
  obtain ⟨s, -, -, hafter⟩ := h.exists_offered
  rw [hafter]
  exact Engine.steady_settingsIn.keeps_perform (fun _ _ => e.settingsIn_congr rfl rfl) x.request
    (.offering s x.before.session)

/-- **Envelopes describe themselves and never share salts.** Over a run of calls, whatever the calls are and however
they end:

* a call with a salt of its own draws nothing;
* an envelope that is returned names the scheme that was used, its parameters decode to the count and the salt that were
  used, without a ceiling, and encrypting the message under them gives its data. The salt is the one that was given, or
  as many octets as the settings say of the random source, at the positions that this call draws;
* call after call these positions are the next ones of the source, and no two calls share one. -/
theorem history_self_describing (hfunction : e.function = Derivation.derive) (w : Workspace) (steps : List Step) :
    (∀ x ∈ w.history e steps, ∀ message scheme iterations salt,
      x.request = .encryptEnvelope message scheme iterations salt →
        (salt.isSome → x.draws = [])
        ∧ ∀ envelope, x.reply = .ok (.envelope envelope) →
          ∃ settings password s, (e.settingsIn w.session).1 = .ok settings ∧ x.password? = some password
            ∧ Descriptor.ofScheme (Engine.schemeOrDefault settings scheme) = .ok (Scheme.descriptor s)
            ∧ (salt = none → x.draws.length = settings.saltLength)
            ∧ envelope.Describes e password message s
              ⟨salt.getD (x.draws.map e.around.random), iterations.getD settings.defaultIterations⟩)
      ∧ (w.history e steps).flatMap Exchange.draws = List.range' w.drawn ((w.run e steps).drawn - w.drawn)
      ∧ (w.history e steps).Pairwise fun x y => x.draws.Disjoint y.draws := by
  refine ⟨fun x hx message scheme iterations salt hrequest => ?_, flatMap_span_history fun _ => drawn_le_of_made,
    pairwise_disjoint_span fun _ => drawn_le_of_made⟩
  obtain ⟨hmade, hsettings⟩ := before_of_mem_history
    (P := fun now => (e.settingsIn now.session).1 = (e.settingsIn w.session).1)
    (fun _ h hbefore => (settingsIn_of_made h).trans hbefore) rfl x hx
  -- with a salt handed over nothing is drawn, and without one as much as the settings say
  constructor
  · intro hsome
    obtain ⟨given, rfl⟩ := Option.isSome_iff_exists.mp hsome
    obtain ⟨failure, -, hdraws⟩ | ⟨settings, password, result, -, -, -, -, hdraws⟩ := hmade.envelope_cases hrequest
    · exact hdraws
    · rw [hdraws, Engine.drawnFor]
      rfl
  · intro envelope hreply
    obtain ⟨settings, password, s, hread, hpassword, hfound, hlength, hdescribes⟩ :=
      hmade.describes hfunction hrequest hreply
    refine ⟨settings, password, s, hsettings.symm.trans hread, hpassword, hfound, fun hnone => ?_, hdescribes⟩
    rw [hlength, hnone, Engine.drawnFor]

/-- Two envelopes whose salts are drawn, from a source in which every octet is its position. -/
theorem history_self_describing_two_salts :
    let e : Engine := { Engine.withSettings {} with around := { Surroundings.still with random := UInt8.ofNat } }
    let w : Workspace := { secrets := [("p", .buffer [0x61]), ("q", .octets [0x62])] }
    let steps : List Step :=
      [⟨"p", fun _ => .encryptEnvelope (some [1, 2, 3]) .null none none⟩,
        ⟨"q", fun _ => .encryptEnvelope (some []) (.text Scheme.rc2.name) (some 1) none⟩]
    ∃ first second : Envelope,
      (w.history e steps).map Exchange.reply = [.ok (.envelope first), .ok (.envelope second)]
      ∧ first.algorithm.algorithm = .text Scheme.tripleDes.oid
      ∧ Parameters.decode first.algorithm.parameters = .ok ⟨[0, 1, 2, 3, 4, 5, 6, 7], 2048⟩
      ∧ second.algorithm.algorithm = .text Scheme.rc2.oid
      ∧ Parameters.decode second.algorithm.parameters = .ok ⟨[8, 9, 10, 11, 12, 13, 14, 15], 1⟩ := by
  intro e w steps
  have hfunction : e.function = Derivation.derive := rfl
  have hcount : (1 : Int) ≤ (none : Option Int).getD (2048 : Nat) := by decide
  have hcount' : (1 : Int) ≤ (some 1 : Option Int).getD (2048 : Nat) := by decide
  have hscheme : Descriptor.ofScheme (Engine.schemeOrDefault {} .null) = .ok Scheme.tripleDes.descriptor := rfl
  have hscheme' : Descriptor.ofScheme (Engine.schemeOrDefault {} (.text Scheme.rc2.name))
      = .ok Scheme.rc2.descriptor := rfl
  have hsettings : ∀ session, (e.settingsIn session).1 = .ok {} := fun _ => rfl
  -- both calls return an envelope, the second in the session that the first one leaves
  let call := e.perform (.encryptEnvelope (some [1, 2, 3]) .null none none) (.offering (.buffer [0x61]) w.session)
  let between : Workspace := { (w.put "p" call.2.custody.settle) with session := call.2.session }
  let call' := e.perform (.encryptEnvelope (some []) (.text Scheme.rc2.name) (some 1) none)
    (.offering (.octets [0x62]) between.session)
  let after : Workspace := { (between.put "q" call'.2.custody.settle) with session := call'.2.session }
  have hcall : w.call e steps[0] = some (call.1, between) := (w.perform_eq e "p" _).trans rfl
  have hcall' : between.call e steps[1] = some (call'.1, after) := (between.perform_eq e "q" _).trans rfl
  have hhistory : w.history e steps = [⟨steps[0], w, call.1, between⟩, ⟨steps[1], between, call'.1, after⟩] :=
    (history_cons_of_call hcall).trans (congrArg (List.cons _) (history_cons_of_call hcall'))
  have hholds : (Call.offering (.buffer [0x61]) w.session).Holds [0x61] := .of_octets? rfl w.session
  have hholds' : (Call.offering (.octets [0x62]) between.session).Holds [0x62] := .of_octets? rfl between.session
  obtain ⟨first, hfirst⟩ := Engine.exists_encryptEnvelope hfunction hholds (hsettings _) hscheme hcount [1, 2, 3] none
  obtain ⟨second, hsecond⟩ := Engine.exists_encryptEnvelope hfunction hholds' (hsettings _) hscheme' hcount' [] none
  have hreply : call.1 = .ok (.envelope first) :=
    (Op.result_bind_pure _ Reply.envelope _).trans (congrArg (Except.map Reply.envelope) hfirst)
  have hreply' : call'.1 = .ok (.envelope second) :=
    (Op.result_bind_pure _ Reply.envelope _).trans (congrArg (Except.map Reply.envelope) hsecond)
  obtain ⟨heach, hdrawn, -⟩ := history_self_describing hfunction w steps
  rw [hhistory] at heach hdrawn
  obtain ⟨-, hone⟩ := heach ⟨steps[0], w, call.1, between⟩ (by simp) _ _ _ _ rfl
  obtain ⟨-, htwo⟩ := heach ⟨steps[1], between, call'.1, after⟩ (by simp) _ _ _ _ rfl
  -- each envelope tells the scheme and the parameters of its own call
  obtain ⟨settings, password, s, hread, -, hfound, hlength, hdescribes⟩ := hone first hreply
  obtain ⟨settings', password', s', hread', -, hfound', hlength', hdescribes'⟩ := htwo second hreply'
  obtain rfl := Except.ok.inj ((hsettings _).symm.trans hread)
  obtain rfl := Except.ok.inj ((hsettings _).symm.trans hread')
  have hs : s = .tripleDes := by
    have hsame := congrArg Descriptor.scheme (Except.ok.inj (hfound.symm.trans hscheme))
    simpa using hsame
  have hs' : s' = .rc2 := by
    have hsame := congrArg Descriptor.scheme (Except.ok.inj (hfound'.symm.trans hscheme'))
    simpa using hsame
  subst hs hs'
  -- the positions of the two salts are sixteen in a row, eight for each
  have hpositions : (⟨steps[0], w, call.1, between⟩ : Exchange).draws = List.range' 0 8
      ∧ (⟨steps[1], between, call'.1, after⟩ : Exchange).draws = List.range' 8 8 := by
    have htotal := congrArg List.length hdrawn
    rw [List.flatMap_cons, List.flatMap_singleton] at hdrawn htotal
    rw [List.length_append, hlength rfl, hlength' rfl, List.length_range'] at htotal
    rw [← htotal] at hdrawn
    exact List.append_inj hdrawn (hlength rfl)
  rw [hpositions.1] at hdescribes
  rw [hpositions.2] at hdescribes'
  refine ⟨first, second, ?_, hdescribes.scheme, hdescribes.parameters (by decide), hdescribes'.scheme,
    hdescribes'.parameters (by decide)⟩
  rw [hhistory, List.map_cons, List.map_singleton, hreply, hreply']

end Workspace

end Shroud
