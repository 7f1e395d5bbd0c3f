import Shroud.Proofs.AlgorithmId.Arcs
import Shroud.Proofs.Engine.Outcome

/-!
# Algorithms are dispatched exactly

An algorithm is given as a text, or as integers in a tuple or a list, and what counts is the text to which it is
normalised (`AlgorithmId.Normalised`). There is nothing between a registered object identifier and anything else: no
prefix of one is taken for it, no extension, and no arcs that only look like it when they are joined. This comes down to
arcs having texts of their own, so that integers are normalised to the text of a scheme only if they are its arcs
(`AlgorithmId.Normalised.givenAs_arcs_iff`).

Whatever is not found is refused wherever it would be used, before anything else is looked at
(`AlgorithmId.Refused`, `AlgorithmId.dispatches_exactly`).
-/

namespace Shroud

open Ber

namespace Engine

variable (e : Engine) {c : Call} {password : Bytes} {a : AlgorithmId} {failure : Failure}

/-! ### Algorithms that are not found -/

/-- An identifier that is refused leads to no tool. -/
theorem result_decrypterFor_of_unresolved (hc : c.Holds password)
    (h : Descriptor.ofAlgorithm a.algorithm = .error failure) : (e.decrypterFor a).result c = .error failure := by
  obtain ⟨c', -, -, -, hconsuming⟩ := hc.result_consuming
  rw [decrypterFor, hconsuming]
  exact e.result_orWarn_bind_of_error h _

/-- Neither the data nor the parameters matter where the algorithm is not found. -/
theorem result_decrypt_of_unresolved (hc : c.Holds password)
    (h : Descriptor.ofAlgorithm a.algorithm = .error failure) (data : Bytes) :
    (e.decrypt (some ⟨a, data⟩)).result c = .error failure := by
  obtain ⟨j, hlogged⟩ := e.result_logged "pbe_decrypt" c
  have hj : (c.withJournal j).Holds password := hc.of_custody rfl
  obtain ⟨c', -, -, -, hconsuming⟩ := hj.result_consuming
  have hopening : (e.opening (some ⟨a, data⟩)).result (c.withJournal j) = .error failure := by
    rw [opening, hconsuming]
    exact e.result_orWarn_bind_of_error h _
  rw [decrypt, hlogged, Op.result, Op.bind_of_error (Prod.ext hopening rfl)]

end Engine

/-- The arcs of a scheme's object identifier. -/
def Scheme.arcs : Scheme → List Int
  | .tripleDes => [1, 2, 840, 113549, 1, 12, 1, 3]
  | .rc2 => [1, 2, 840, 113549, 1, 12, 1, 6]

/-- A scheme is written by its arcs. -/
theorem Scheme.dotted_arcs (s : Scheme) : ObjectIdentifier.dotted s.arcs = s.oid := by
  cases s <;> decide +kernel

namespace AlgorithmId

variable {v : Value} {text : String}

/-! ### Normalised texts -/

/-- **What is normalised to a text**: a text is as it is, and arcs are joined by dots, in whatever way they are given,
if they have no more digits than are ever written. -/
inductive Normalised : Value → String → Prop where
  | text (s : String) : Normalised (.text s) s
  | arcs {arcs : List Int} {v : Value} (hbounds : ∀ n ∈ arcs, Decimal.inBounds n = true) (hgiven : GivenAs arcs v) :
      Normalised v (ObjectIdentifier.dotted arcs)

/-- An identifier is made of the text that it is normalised to. -/
theorem Normalised.make_eq (h : Normalised v text) (parameters : Bytes) :
    make v parameters = .ok ⟨.text text, parameters⟩ := by
  cases h with
  | text => rfl
  | arcs hbounds hgiven => exact make_of_givenAs hbounds hgiven parameters

/-- **Only the object identifier of a scheme is normalised to its text.** -/
theorem Normalised.givenAs_arcs_iff (h : Normalised v text) {s : Scheme} : GivenAs s.arcs v ↔ text = s.oid := by
  rw [← s.dotted_arcs]
  cases h with
  | text =>
    constructor
    -- different arcs are written differently, so the text tells the arcs
    · intro hgiven
      cases hgiven
      rfl
    · rintro rfl
      exact .text
  | arcs _ hgiven' =>
    constructor
    · intro hgiven
      rw [hgiven'.unique hgiven]
    · intro htext
      rwa [← ObjectIdentifier.dotted_injective htext]

/-! ### Dispatch -/

/-- **An identifier that is refused as not supported** with a text: when it is resolved, when a mode is asked for, and
when data is to be decrypted, in every engine and every session, with every password that is one. -/
structure Refused (a : AlgorithmId) (text : String) : Prop where
  resolve : Descriptor.ofAlgorithm a.algorithm = .error (.unsupported text)
  decrypterFor (e : Engine) (session : Session) {given : Secret} (hgiven : given.octets?.isSome) :
    (e.decrypterFor a).result (.offering given session) = .error (.unsupported text)
  decrypt (e : Engine) (session : Session) {given : Secret} (hgiven : given.octets?.isSome) (data : Bytes) :
    (e.decrypt (some ⟨a, data⟩)).result (.offering given session) = .error (.unsupported text)

/-- Every entry point refuses an identifier that no scheme has. -/
theorem refused_of_unresolved {a : AlgorithmId} (h : Descriptor.ofAlgorithm a.algorithm = .error (.unsupported text)) :
    a.Refused text where
  resolve := h
  decrypterFor e session _ hgiven := by
    obtain ⟨password, hpassword⟩ := Option.isSome_iff_exists.mp hgiven
    exact e.result_decrypterFor_of_unresolved (.of_octets? hpassword session) h
  decrypt e session _ hgiven data := by
    obtain ⟨password, hpassword⟩ := Option.isSome_iff_exists.mp hgiven
    exact e.result_decrypt_of_unresolved (.of_octets? hpassword session) h data

/-- **Object identifiers dispatch exactly, however they are given.** A text, or integers in a tuple or a list, make an
identifier of their normalised text. It resolves to a scheme if and only if what was given is the object identifier of
this scheme, and otherwise it is refused everywhere, with the normalised text. No two sequences of integers have one
normalised text. The descriptor that is found is the one that its scheme finds, by itself and by its name. -/
theorem dispatches_exactly (hv : Normalised v text) (parameters : Bytes) :
    make v parameters = .ok ⟨.text text, parameters⟩
    ∧ (∀ s : Scheme, Descriptor.ofAlgorithm (.text text) = .ok s.descriptor ↔ GivenAs s.arcs v)
    ∧ ((∀ s : Scheme, ¬ GivenAs s.arcs v) → Refused ⟨.text text, parameters⟩ text)
    ∧ Function.Injective ObjectIdentifier.dotted
    ∧ ∀ d : Descriptor, Descriptor.ofAlgorithm (.text text) = .ok d →
      Descriptor.ofScheme (.scheme d.scheme) = .ok d ∧ Descriptor.ofScheme (.text d.scheme.name) = .ok d := by
  refine ⟨hv.make_eq parameters, fun s => ?_, fun hnone => ?_, ObjectIdentifier.dotted_injective, fun d hd => ?_⟩
  · rw [hv.givenAs_arcs_iff, Descriptor.ofAlgorithm_eq_ok_iff]
    constructor
    · rintro ⟨t, htext, hsame⟩
      -- schemes with the same descriptor are the same
      have hscheme := congrArg Descriptor.scheme hsame
      rw [s.scheme_descriptor, t.scheme_descriptor] at hscheme
      rw [hscheme]
      exact Value.text.inj htext
    · rintro rfl
      exact ⟨s, rfl, rfl⟩
  · refine refused_of_unresolved (Descriptor.ofAlgorithm_eq_notSupported fun s htext => ?_)
    exact hnone s (hv.givenAs_arcs_iff.mpr (Value.text.inj htext))
  · obtain ⟨s, -, rfl⟩ := Descriptor.ofAlgorithm_eq_ok_iff.mp hd
    rw [s.scheme_descriptor]
    exact ⟨Descriptor.ofScheme_scheme s, Descriptor.ofScheme_name s⟩

/-- The arcs of a scheme in a list are found. In a tuple with 36 for the last arc, whose text only starts with that of a
scheme, they are refused. -/
theorem dispatches_exactly_extended_arc :
    let extended : List Value := [.int 1, .int 2, .int 840, .int 113549, .int 1, .int 12, .int 1, .int 36]
    make (.list (Scheme.rc2.arcs.map .int)) [0x05, 0x00] = .ok ⟨.text Scheme.rc2.oid, [0x05, 0x00]⟩
    ∧ Descriptor.ofAlgorithm (.text Scheme.rc2.oid) = .ok Scheme.rc2.descriptor
    ∧ make (.tuple extended) [0x05, 0x00] = .ok ⟨.text "1.2.840.113549.1.12.1.36", [0x05, 0x00]⟩
    ∧ Refused ⟨.text "1.2.840.113549.1.12.1.36", [0x05, 0x00]⟩ "1.2.840.113549.1.12.1.36" := by
  intro extended
  let arcs : List Int := [1, 2, 840, 113549, 1, 12, 1, 36]
  -- once with the arcs of a scheme, and once with a last arc that starts as that of one
  have hknown : Normalised (.list (Scheme.rc2.arcs.map .int)) Scheme.rc2.oid := by
    rw [← Scheme.rc2.dotted_arcs]
    exact .arcs (by decide +kernel) .list
  have hextended : Normalised (.tuple (arcs.map .int)) "1.2.840.113549.1.12.1.36" := by
    have htext : ObjectIdentifier.dotted arcs = "1.2.840.113549.1.12.1.36" := by decide +kernel
    rw [← htext]
    exact .arcs (by decide +kernel) .tuple
  obtain ⟨hmake, hfound, -⟩ := dispatches_exactly hknown [0x05, 0x00]
  obtain ⟨hmake', -, hrefused, -⟩ := dispatches_exactly hextended [0x05, 0x00]
  refine ⟨hmake, (hfound .rc2).mpr .list, hmake', hrefused fun s hgiven => ?_⟩
  have htext := hextended.givenAs_arcs_iff.mp hgiven
  cases s <;> exact absurd htext (by decide)

end AlgorithmId

end Shroud
