import Shroud.Proofs.Engine.Outcome
import Shroud.Proofs.Parameters

/-!
# Derivation stays within the ceiling

Whoever offers an envelope chooses the iteration count in it, and with it how long derivation takes. The only
protection is the ceiling of the settings, which is applied when the parameters are decoded.

A derivation function that is replaced by another one makes no difference to decrypting, as long as both agree
on the counts from one up to the ceiling (`Engine.decrypt_eq_of_agreesWithin`). So no other count ever gets to
derivation. The argument goes along the operations: two runs of the same steps agree if what follows agrees in
every call that a step can leave (`Op.bind_eq_bind`), and in front of the one step that derives stands the
decoded count.

The ceiling only ever refuses. What is decoded under a ceiling is decoded under every higher one, and without
one, to the same value.
-/

namespace Shroud

variable {α β : Type}

/-! ### Operations that take the same steps -/

namespace Op

/-- What follows a step has to agree only where the step leads to. -/
theorem bind_eq_bind {x : Op α} {f g : α → Op β} {c : Call}
    (h : ∀ a c', x c = (.ok a, c') → f a c' = g a c') : (x >>= f) c = (x >>= g) c := by
  cases hx : x c with
  | mk result c' =>
    cases result with
    | ok a => rw [bind_of_ok hx, bind_of_ok hx, h a c' hx]
    | error failure => rw [bind_of_error hx, bind_of_error hx]

/-- Steps that do the same are followed by the same. -/
theorem bind_eq_bind_of_eq {x y : Op α} {c : Call} (h : x c = y c) (f : α → Op β) :
    (x >>= f) c = (y >>= f) c := by
  change Op.bind x f c = Op.bind y f c
  rw [Op.bind, Op.bind, h]

/-- Work with the password has to agree in calls of the same session. -/
theorem consuming_eq_consuming {work work' : Op α} {c : Call}
    (h : ∀ c' : Call, c'.session = c.session → work c' = work' c') :
    consuming work c = consuming work' c := by
  unfold consuming
  cases c.custody.claim with
  | error failure => rfl
  | ok claimed =>
    have hwork := h { c with custody := claimed } rfl
    dsimp only
    rw [hwork]

end Op

namespace Derivation

/-- **Two derivation functions agree within a ceiling** if they give the same for all counts from one up to
it. -/
def AgreesWithin (limit : Int) (f g : Function) : Prop :=
  ∀ (salt password : Bytes) (iterations id length : Int) (digest : Value),
    1 ≤ iterations → iterations ≤ limit →
      f salt password iterations id length digest = g salt password iterations id length digest

end Derivation

namespace Engine

variable {e : Engine} {c : Call} {settings : Settings} {function : Derivation.Function}

/-- Work under a name has to agree whatever the journal is. -/
theorem logged_eq_logged (name : String) {work work' : Op α}
    (h : ∀ j, work (c.withJournal j) = work' (c.withJournal j)) :
    e.logged name work c = e.logged name work' c := by
  unfold logged Op.logged Journal.timed
  dsimp only
  rw [h]

/-- **A count within the ceiling** is derived with in the same way. -/
theorem buildMode_eq_of_agreesWithin {limit : Int} (hagree : Derivation.AgreesWithin limit function e.function)
    {iterations : Int} (hpos : 1 ≤ iterations) (hle : iterations ≤ limit) (d : Descriptor) (salt : Bytes)
    (direction : Direction) :
    { e with function }.buildMode d salt iterations direction = e.buildMode d salt iterations direction := by
  have hderive : ∀ purpose size password, d.derive function purpose size salt password iterations
      = d.derive e.function purpose size salt password iterations := by
    intro purpose size password
    rw [Descriptor.derive, Descriptor.derive, hagree _ _ _ _ _ _ hpos hle]
  unfold buildMode material derived Descriptor.deriveKey Descriptor.deriveIv
  simp only [hderive]

/-- A mode for decrypting is made under a count that was decoded, which is within the ceiling. -/
theorem decrypterFor_eq_of_agreesWithin (hsettings : (e.settingsIn c.session).1 = .ok settings)
    (hagree : Derivation.AgreesWithin settings.maxIterations function e.function) (algorithm : AlgorithmId) :
    { e with function }.decrypterFor algorithm c = e.decrypterFor algorithm c := by
  refine Op.consuming_eq_consuming fun c₁ hsession => ?_
  refine Op.bind_eq_bind (x := e.resolve algorithm) fun d c₂ hfound => ?_
  obtain ⟨-, rfl⟩ := e.orWarn_eq_ok hfound
  refine Op.bind_eq_bind (x := e.currentSettings) fun read c₃ hread => ?_
  -- the settings that are read here are the ones that the hypothesis speaks of
  have hcurrent : (e.settingsIn c₂.session).1 = .ok read := congrArg Prod.fst hread
  rw [hsession, hsettings] at hcurrent
  obtain rfl := Except.ok.inj hcurrent
  refine Op.bind_eq_bind fun p c₄ hp => ?_
  -- decoding has checked the count against the same ceiling
  obtain ⟨hpos, hle⟩ := Parameters.iterations_of_decode_eq_ok (congrArg Prod.fst hp)
  rw [buildMode_eq_of_agreesWithin hagree hpos hle]

/-- Envelopes are opened alike by functions that agree within the ceiling. -/
theorem opening_eq_of_agreesWithin (hsettings : (e.settingsIn c.session).1 = .ok settings)
    (hagree : Derivation.AgreesWithin settings.maxIterations function e.function) (offered : Option Envelope) :
    { e with function }.opening offered c = e.opening offered c := by
  cases offered with
  | none => rfl
  | some envelope =>
    rw [opening, opening]
    refine Op.consuming_eq_consuming fun c₁ hsession => ?_
    rw [← hsession] at hsettings
    refine Op.bind_eq_bind (x := e.resolve envelope.algorithm) fun d c₂ hfound => ?_
    obtain ⟨-, rfl⟩ := e.orWarn_eq_ok hfound
    -- neither the lookup nor the check of the length changes the call
    refine Op.bind_eq_bind fun _ c₃ hchecked => ?_
    obtain rfl : c₂ = c₃ := congrArg Prod.snd hchecked
    exact Op.bind_eq_bind_of_eq (decrypterFor_eq_of_agreesWithin hsettings hagree _) _

/-- **Only counts within the ceiling get to derivation.** Decrypting, and making a mode for decrypting, comes to
the same result and leaves the same password, session and log under every derivation function that agrees with
the engine's own on the counts from one up to the ceiling, whatever identifier, parameters, ciphertext and
password are offered. And a higher ceiling, or none, changes nothing that was decoded. -/
theorem decrypt_eq_of_agreesWithin (hsettings : (e.settingsIn c.session).1 = .ok settings)
    (hagree : Derivation.AgreesWithin settings.maxIterations function e.function) :
    (∀ offered, { e with function }.decrypt offered c = e.decrypt offered c)
    ∧ (∀ algorithm, { e with function }.decrypterFor algorithm c = e.decrypterFor algorithm c)
    ∧ ∀ (raw : Bytes) (limit limit' : Int) (p : Parameters), limit ≤ limit' →
      Parameters.decode raw (some limit) = .ok p →
      Parameters.decode raw (some limit') = .ok p ∧ Parameters.decode raw = .ok p := by
  refine ⟨?_, decrypterFor_eq_of_agreesWithin hsettings hagree, ?_⟩
  · intro offered
    refine logged_eq_logged "pbe_decrypt" fun j => ?_
    have hj : (e.settingsIn (c.withJournal j).session).1 = .ok settings := by
      rw [settingsIn_withJournal, hsettings]
    exact Op.bind_eq_bind_of_eq (opening_eq_of_agreesWithin hj hagree offered) _
  · intro raw limit limit' p hlimits hdecoded
    obtain ⟨hraw, hread, hpos, hle⟩ := Parameters.decode_eq_ok_iff.mp hdecoded
    -- a count below one ceiling is below every higher one
    have hle' := le_trans (hle limit rfl) hlimits
    exact ⟨Parameters.decode_eq_ok_iff.mpr ⟨hraw, hread, hpos, by simpa using hle'⟩,
      Parameters.decode_eq_ok_iff.mpr ⟨hraw, hread, hpos, by simp⟩⟩

/-- Derivation that is refused for every count but one to ten. -/
def refusingFunction : Derivation.Function := fun salt password iterations id length digest =>
  if 1 ≤ iterations ∧ iterations ≤ 10 then Derivation.derive salt password iterations id length digest
  else .error (.misuse .digestKind)

/-- One block of zeros, under a count with these contents. -/
def countedEnvelope (count : Bytes) : Envelope where
  algorithm := ⟨.text Scheme.rc2.oid, Ber.Der.sequence [Ber.Der.octetString [], Ber.Der.element 0x02 count]⟩
  data := List.replicate 8 0

/-- Under a ceiling of ten the refusals are never seen: not with ten iterations, nor with eleven, nor with a
negative count, nor with one of a hundred octets. -/
theorem decrypt_eq_of_agreesWithin_refusing :
    (∀ count ∈ [[0x0a], [0x0b], [0xff], List.replicate 100 0x7f],
      { withSettings { maxIterations := 10 } with function := refusingFunction }.decrypt
          (some (countedEnvelope count)) (.offering (.view [0, 0x61]) {})
        = (withSettings { maxIterations := 10 }).decrypt (some (countedEnvelope count))
          (.offering (.view [0, 0x61]) {}))
    ∧ Parameters.decode [0x30, 0x81, 0x06, 0x04, 0x01, 0xff, 0x02, 0x01, 0x01] (some 10)
      = .ok ⟨[0xff], 1⟩ := by
  have hsettings : ((withSettings { maxIterations := 10 }).settingsIn {}).1 = .ok { maxIterations := 10 } := rfl
  have hagree : Derivation.AgreesWithin ({ maxIterations := 10 } : Settings).maxIterations refusingFunction
      (withSettings { maxIterations := 10 }).function := by
    intro salt password iterations id length digest hpos hle
    exact if_pos ⟨hpos, hle⟩
  obtain ⟨hdecrypt, -, hdecode⟩ :=
    decrypt_eq_of_agreesWithin (c := .offering (.view [0, 0x61]) {}) hsettings hagree
  refine ⟨fun count _ => hdecrypt _, ?_⟩
  -- the count is one, in a sequence whose length takes more octets than it has to
  have hone : Parameters.decode [0x30, 0x81, 0x06, 0x04, 0x01, 0xff, 0x02, 0x01, 0x01] (some 1)
      = .ok ⟨[0xff], 1⟩ := rfl
  exact (hdecode _ 1 10 _ (by decide) hone).1

end Engine

end Shroud
