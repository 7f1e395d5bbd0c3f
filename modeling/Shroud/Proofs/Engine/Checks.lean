import Shroud.Proofs.Engine.Custody
import Shroud.Proofs.Engine.Outcome
import Shroud.Proofs.Parameters

/-!
# Checks in front of decrypting

Five things may be wrong with a call of decrypting before anything is derived: the password, what is offered,
its algorithm, the length of its ciphertext, and its parameters. Each `Check` says by itself what it finds wrong
(`Check.failure?`), looking at one part of the call and at nothing else (`Check.SameFor`).

`Attempt.result_of_first_failure` is how they work together. The first of them that fails decides, so whatever
only later ones look at makes no difference, nor does the derivation function, which no check looks at.
-/

namespace Shroud

/-- The failure that a result is, if it is one. -/
def failureOf {α : Type} : Except Failure α → Option Failure
  | .ok _ => none
  | .error failure => some failure

theorem failureOf_eq_some_iff {α : Type} {r : Except Failure α} {failure : Failure} :
    failureOf r = some failure ↔ r = .error failure := by
  cases r <;> simp [failureOf]

/-- **A step that fails, or what fails behind it.** -/
theorem bind_eq_error {α β : Type} {x : Except Failure α} {f : α → Except Failure β} {failure : Failure}
    {rest : Option Failure} (h : (failureOf x).or rest = some failure)
    (hrest : ∀ a, x = .ok a → rest = some failure → f a = .error failure) :
    (x >>= f) = .error failure := by
  cases x with
  | ok a => exact hrest a rfl h
  | error found =>
    obtain rfl : found = failure := Option.some.inj h
    rfl

/-- A call of decrypting, by an engine with settings of its own. -/
structure Attempt where
  settings : Settings
  function : Derivation.Function := Derivation.derive
  around : Surroundings := .still
  session : Session := {}
  given : Secret
  offered : Option Envelope

namespace Attempt

/-- The engine of an attempt. -/
def engine (a : Attempt) : Engine where
  settings := some a.settings
  function := a.function
  around := a.around

/-- **What decrypting gives.** -/
def result (a : Attempt) : Except Failure Bytes :=
  (a.engine.decrypt a.offered).result (.offering a.given a.session)

end Attempt

/-- The checks of decrypting. -/
inductive Check where
  /-- The password is a secret. -/
  | password
  /-- An envelope is offered. -/
  | envelope
  /-- Its algorithm is registered. -/
  | algorithm
  /-- Its ciphertext is whole blocks. -/
  | length
  /-- Its parameters can be decoded under the ceiling. -/
  | parameters

namespace Check

/-- The checks in their order. -/
def all : List Check :=
  [password, envelope, algorithm, length, parameters]

/-! ### What is wrong -/

/-- The failure of an algorithm that is not registered. -/
def unregistered? : Value → Option Failure
  | .text oid => if oid ∈ Scheme.supportedOids then none else some (.unsupported oid)
  | v => some (.notSupported v)

/-- The failure of a length that is not a positive number of blocks. -/
def unaligned? (length : Nat) : Option Failure :=
  if length = 0 then some (.length .empty)
  else if 8 ∣ length then none
  else some (Failure.length (.unaligned length 8)).checked

/-- The failure of parameters that cannot be decoded under a ceiling. -/
def undecodable? (limit : Int) (raw : Bytes) : Option Failure :=
  failureOf (Parameters.decode raw (some limit))

/-- **What a check finds wrong.** Where no envelope is offered there is nothing wrong with it. -/
def failure? (a : Attempt) : Check → Option Failure
  | password => if a.given.octets?.isSome then none else some (.misuse .secretKind)
  | envelope => if a.offered.isSome then none else some (.misuse .envelopeKind)
  | algorithm => (a.offered.map (·.algorithm.algorithm)).bind unregistered?
  | length => (a.offered.map (·.data.length)).bind unaligned?
  | parameters => (a.offered.map (·.algorithm.parameters)).bind (undecodable? a.settings.maxIterations)

/-- **Two attempts are the same for a check**: what it looks at is alike in both. -/
def SameFor (a b : Attempt) : Check → Prop
  | password => a.given.octets?.isSome = b.given.octets?.isSome
  | envelope => a.offered.isSome = b.offered.isSome
  | algorithm => a.offered.map (·.algorithm.algorithm) = b.offered.map (·.algorithm.algorithm)
  | length => a.offered.map (·.data.length) = b.offered.map (·.data.length)
  | parameters => a.settings.maxIterations = b.settings.maxIterations
      ∧ a.offered.map (·.algorithm.parameters) = b.offered.map (·.algorithm.parameters)

/-- The kinds under which a check's failures are reported. A count that has too many digits for a message is
reported as a wrong value. -/
def kinds : Check → List FaultKind
  | password | envelope => [.type]
  | algorithm => [.unsupported]
  | length => [.length]
  | parameters => [.parameters, .value]

/-- **What a check's failure tells can be written**: the algorithm has a text, as every text has, and the
length of the ciphertext has no more digits than are ever written. -/
def Writable (a : Attempt) : Check → Prop
  | algorithm => ∀ envelope ∈ a.offered, ∃ shown, envelope.algorithm.algorithm.display = .ok shown
  | length => ∀ envelope ∈ a.offered, envelope.data.length < Decimal.bound
  | _ => True

/-- **An algorithm that is named by a text can always be told**, and no ciphertext is so long that its length could not:
every check's failure can then be written. -/
theorem writable_of_text {a : Attempt}
    (halgorithm : ∀ envelope ∈ a.offered, ∃ name, envelope.algorithm.algorithm = .text name)
    (hlength : ∀ envelope ∈ a.offered, envelope.data.length < Decimal.bound) (check : Check) : check.Writable a := by
  cases check with
  | algorithm =>
    intro envelope hoffered
    obtain ⟨name, hname⟩ := halgorithm envelope hoffered
    exact ⟨name, by rw [hname, Value.display]⟩
  | length => exact hlength
  | _ => trivial

/-- A check fails alike for attempts that are the same to it. -/
theorem SameFor.failure?_eq {a b : Attempt} {check : Check} (h : check.SameFor a b) :
    check.failure? b = check.failure? a := by
  cases check with
  | parameters =>
    obtain ⟨hlimit, hraw⟩ := h
    rw [failure?, failure?, hlimit, hraw]
  | _ =>
    rw [failure?, failure?, h]

theorem SameFor.refl (a : Attempt) (check : Check) : check.SameFor a a := by
  cases check with
  | parameters => exact ⟨rfl, rfl⟩
  | _ => rfl

/-! ### What is reported -/

/-- An identifier that is not registered is refused as unsupported. -/
theorem kind_of_unregistered? {v : Value} {shown : String} {failure : Failure} (hshown : v.display = .ok shown)
    (h : unregistered? v = some failure) : failure.kind = .unsupported := by
  unfold unregistered? at h
  split at h
  · split at h
    · exact absurd h (by simp)
    · obtain rfl := Option.some.inj h
      rfl
  · obtain rfl := Option.some.inj h
    rw [Failure.notSupported_of_display hshown]
    rfl

/-- A ciphertext that is cut off is refused by its length. -/
theorem kind_of_unaligned? {length : Nat} {failure : Failure} (hlength : length < Decimal.bound)
    (h : unaligned? length = some failure) : failure.kind = .length := by
  -- the length has few enough digits to be named in the message
  have hwritten : (Failure.length (.unaligned length 8)).checked = .length (.unaligned length 8) := by
    have height : 8 < Decimal.bound := by decide +kernel
    rw [Failure.checked, if_pos]
    simp [Failure.integers, LengthFault.integers, Decimal.inBounds, hlength, height]
  unfold unaligned? at h
  split at h
  · obtain rfl := Option.some.inj h
    rfl
  · split at h
    · exact absurd h (by simp)
    · obtain rfl := Option.some.inj h
      rw [hwritten]
      rfl

/-! ### The checks are those of the engine -/

/-- The check of the identifier is the lookup of a descriptor. -/
theorem unregistered?_eq (v : Value) : unregistered? v = failureOf (Descriptor.ofAlgorithm v) := by
  by_cases h : ∃ s : Scheme, v = .text s.oid
  · obtain ⟨s, rfl⟩ := h
    rw [Descriptor.ofAlgorithm_oid]
    exact if_pos (List.mem_map_of_mem s.mem_all)
  · rw [Descriptor.ofAlgorithm_eq_notSupported (not_exists.mp h)]
    -- identifiers that are registered are texts
    cases v with
    | text oid =>
      have hmem : oid ∉ Scheme.supportedOids := by
        intro hmem
        obtain ⟨s, -, rfl⟩ := List.mem_map.mp hmem
        exact h ⟨s, rfl⟩
      exact if_neg hmem
    | _ => rfl

/-- The check of the length is the one made before decryption. -/
theorem unaligned?_eq (length : Nat) : unaligned? length = failureOf (checkAligned length blockSize) := by
  have hblock : ((blockSize : Nat) : Int) = 8 := rfl
  have hdvd : (length : Int) % 8 = 0 ↔ 8 ∣ length := by omega
  unfold unaligned? checkAligned
  rw [hblock, if_neg (by decide : ¬(8 : Int) = 0)]
  simp only [ne_eq, hdvd, ite_not, apply_ite failureOf]
  rfl

end Check

namespace Attempt

variable {a : Attempt} {failure : Failure}

/-- What is no envelope is refused once the password is taken over. -/
theorem result_of_offered_eq_none {password : Bytes} (hgiven : a.given.octets? = some password)
    (hoffered : a.offered = none) : a.result = .error (.misuse .envelopeKind) := by
  obtain ⟨j, hlogged⟩ := a.engine.result_logged (α := Bytes) "pbe_decrypt" (.offering a.given a.session)
  have hj : ((Call.offering a.given a.session).withJournal j).Holds password :=
    (Call.Holds.of_octets? hgiven a.session).of_custody rfl
  -- the envelope is looked at while the password is held
  obtain ⟨c, -, -, -, hconsuming⟩ := hj.result_consuming (α := Mode × Bytes)
  have hopening : (a.engine.opening none).result ((Call.offering a.given a.session).withJournal j)
      = .error (.misuse .envelopeKind) := by
    rw [Engine.opening, hconsuming]
    rfl
  rw [result, hoffered, Engine.decrypt, hlogged, Op.result, Op.bind_of_error (Prod.ext hopening rfl)]

/-- The checks are made one after the other, and the first that fails is the outcome. -/
theorem findSome?_all (a : Attempt) :
    Check.all.findSome? (Check.failure? a)
      = (Check.password.failure? a).or ((Check.envelope.failure? a).or ((Check.algorithm.failure? a).or
        ((Check.length.failure? a).or ((Check.parameters.failure? a).or none)))) := by
  have hcons : ∀ k ks, (k :: ks).findSome? (Check.failure? a)
      = (k.failure? a).or (ks.findSome? (Check.failure? a)) := by
    intro k ks
    rw [List.findSome?_cons]
    cases k.failure? a <;> rfl
  simp only [Check.all, hcons, List.findSome?_nil]

/-- **The first failure that the checks find is that of the attempt.** -/
theorem result_of_findSome? (h : Check.all.findSome? (Check.failure? a) = some failure) :
    a.result = .error failure := by
  simp only [findSome?_all, Check.failure?] at h
  cases hgiven : a.given.octets? with
  | none =>
    obtain rfl : Failure.misuse .secretKind = failure := by simpa [hgiven] using h
    exact (a.engine.consumes_decrypt a.offered).result_of_octets?_eq_none hgiven a.session
  | some password =>
    cases hoffered : a.offered with
    | none =>
      obtain rfl : Failure.misuse .envelopeKind = failure := by simpa [hgiven, hoffered] using h
      exact result_of_offered_eq_none hgiven hoffered
    | some envelope =>
      have hsettings : (a.engine.settingsIn a.session).1 = .ok a.settings := rfl
      simp only [hgiven, hoffered, Option.isSome_some, if_true, Option.map_some, Option.bind_some,
        Option.none_or, Check.unregistered?_eq, Check.unaligned?_eq, Check.undecodable?] at h
      rw [result, hoffered, a.engine.result_decrypt (.of_octets? hgiven a.session) hsettings, Engine.decrypted]
      -- the checks of an envelope are the first three steps
      refine bind_eq_error h fun d hfound h => ?_
      obtain ⟨s, rfl⟩ := Descriptor.ofAlgorithm_eq_ok hfound
      rw [Scheme.blockSize_descriptor]
      refine bind_eq_error h fun _ _ h => ?_
      exact bind_eq_error h fun _ _ h => absurd h (by simp)

/-- **A check fails with a kind of its own.** -/
theorem kind_mem_kinds {check : Check} (hwritable : check.Writable a) (h : check.failure? a = some failure) :
    failure.kind ∈ check.kinds := by
  -- the two checks whose messages quote the envelope need it to be writable
  cases check with
  | password =>
    obtain ⟨-, rfl⟩ : _ ∧ Failure.misuse .secretKind = failure := by simpa [Check.failure?] using h
    exact List.mem_cons_self
  | envelope =>
    obtain ⟨-, rfl⟩ : _ ∧ Failure.misuse .envelopeKind = failure := by simpa [Check.failure?] using h
    exact List.mem_cons_self
  | algorithm =>
    obtain ⟨v, hv, hfailure⟩ := Option.bind_eq_some_iff.mp h
    obtain ⟨envelope, hoffered, rfl⟩ := Option.map_eq_some_iff.mp hv
    obtain ⟨shown, hshown⟩ := hwritable envelope hoffered
    rw [Check.kind_of_unregistered? hshown hfailure]
    exact List.mem_cons_self
  | length =>
    obtain ⟨n, hn, hfailure⟩ := Option.bind_eq_some_iff.mp h
    obtain ⟨envelope, hoffered, rfl⟩ := Option.map_eq_some_iff.mp hn
    rw [Check.kind_of_unaligned? (hwritable envelope hoffered) hfailure]
    exact List.mem_cons_self
  | parameters =>
    obtain ⟨raw, -, hfailure⟩ := Option.bind_eq_some_iff.mp h
    exact Parameters.kind_of_decode_eq_error (failureOf_eq_some_iff.mp hfailure)

/-- **The first check that fails decides.** Its failure is what the attempt gives, and what every other
attempt gives that is the same for this check and the ones before it, whatever the later ones look at and
whatever function derives. It is reported under a kind of that check, provided that its message can be
written. -/
theorem result_of_first_failure {before after : List Check} {check : Check}
    (horder : Check.all = before ++ check :: after) (hpassed : ∀ k ∈ before, k.failure? a = none)
    (hfailed : check.failure? a = some failure) :
    a.result = .error failure
    ∧ (∀ b : Attempt, (∀ k ∈ before ++ [check], k.SameFor a b) → b.result = .error failure)
    ∧ (check.Writable a → failure.kind ∈ check.kinds) := by
  -- any attempt that is the same for these checks fails alike, whatever comes behind them
  have hfirst (b : Attempt) (hsame : ∀ k ∈ before ++ [check], k.SameFor a b) :
      b.result = .error failure := by
    apply result_of_findSome?
    rw [List.findSome?_eq_some_iff]
    refine ⟨before, check, after, horder, ?_, ?_⟩
    · rw [(hsame check (by simp)).failure?_eq, hfailed]
    · intro k hk
      rw [(hsame k (by simp [hk])).failure?_eq, hpassed k hk]
  refine ⟨hfirst a fun k _ => Check.SameFor.refl a k, hfirst, ?_⟩
  intro hwritable
  exact kind_mem_kinds hwritable hfailed

/-- Seven octets of ciphertext, without parameters, under the least ceiling. -/
def sevenOctets : Attempt where
  settings := { maxIterations := 1 }
  given := .buffer [0, 0x61]
  offered := some ⟨⟨.text Scheme.rc2.oid, []⟩, List.replicate 7 0⟩

/-- The length fails before the parameters, and it fails in the same way with good parameters, another
password, other octets, and derivation that never succeeds. -/
theorem result_of_first_failure_seven_octets :
    sevenOctets.result = .error (.length (.unaligned 7 8))
    ∧ result {
        settings := {}
        function := fun _ _ _ _ _ _ => .error .padding
        given := .view []
        offered := some ⟨⟨.text Scheme.rc2.oid, Parameters.encode ⟨[0xff], 1⟩⟩, List.replicate 7 9⟩
      } = .error (.length (.unaligned 7 8)) := by
  have horder : Check.all = [.password, .envelope, .algorithm] ++ .length :: [.parameters] := rfl
  have hpassed : ∀ k ∈ [Check.password, .envelope, .algorithm], k.failure? sevenOctets = none := by
    intro k hk
    simp only [List.mem_cons, List.not_mem_nil, or_false] at hk
    rcases hk with rfl | rfl | rfl <;> rfl
  -- both numbers of the message have few enough digits
  have hchecked : (Failure.length (.unaligned 7 8)).checked = .length (.unaligned 7 8) := by
    rw [Failure.checked, if_pos (by decide +kernel)]
  have hfailed : Check.length.failure? sevenOctets = some (.length (.unaligned 7 8)) :=
    congrArg some hchecked
  obtain ⟨hresult, hsame, -⟩ := result_of_first_failure horder hpassed hfailed
  refine ⟨hresult, hsame _ fun k hk => ?_⟩
  simp only [List.cons_append, List.nil_append, List.mem_cons, List.not_mem_nil, or_false] at hk
  rcases hk with rfl | rfl | rfl | rfl <;> rfl

end Attempt

end Shroud
