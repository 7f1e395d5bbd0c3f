import Shroud.Proofs.Engine.Salts

/-!
# Schemes that are asked for

The engine is asked for a scheme in three places, with a value of any kind. A value that names a scheme gets this scheme
in all three, and encrypting succeeds. A value that names none is reported as not supported when a mode is asked for
and when a message is encrypted.

An envelope is different. Its scheme may be left out, which is told by the truth of the value, so that nothing, the
empty text, zero, and whatever else is false is replaced by the default of the settings
(`Engine.schemeOrDefault_of_not_isTrue`). Names are true, so no scheme is ever taken for another; but among the values
that name none, an envelope refuses only the true ones (`Engine.schemes_answered`).
-/

namespace Shroud

/-- What names a scheme is not false. -/
theorem Scheme.IsNamedBy.isTrue {s : Scheme} {asked : Value} (h : s.IsNamedBy asked) : asked.isTrue = true := by
  rcases h with rfl | rfl
  · rfl
  · cases s <;> decide

namespace Engine

variable {e : Engine} {c : Call} {settings : Settings} {asked : Value} {password : Bytes}

theorem schemeOrDefault_of_isTrue (h : asked.isTrue = true) : schemeOrDefault settings asked = asked :=
  if_pos h

/-- The default stands in for anything false. -/
theorem schemeOrDefault_of_not_isTrue (h : ¬ asked.isTrue = true) :
    schemeOrDefault settings asked = .text settings.defaultScheme.name :=
  if_neg h

/-! ### Values that name no scheme -/

/-- A value that names no scheme is refused, false or not. -/
theorem result_encrypterFor_of_unnamed (hc : c.Holds password) (h : ∀ s : Scheme, ¬ s.IsNamedBy asked) (salt : Bytes)
    (iterations : Int) :
    (e.encrypterFor asked salt iterations).result c = .error (.notSupported asked) := by
  rw [e.result_encrypterFor hc, Descriptor.ofScheme_eq_notSupported h]
  rfl

theorem result_encrypt_of_unnamed (hc : c.Holds password) (h : ∀ s : Scheme, ¬ s.IsNamedBy asked)
    (message salt : Bytes) (iterations : Int) :
    (e.encrypt asked (some message) salt iterations).result c = .error (.notSupported asked) := by
  rw [e.result_encrypt hc, Descriptor.ofScheme_eq_notSupported h]
  rfl

/-- Only values that are true are refused for an envelope. -/
theorem result_encryptEnvelope_of_unnamed (hc : c.Holds password)
    (hsettings : (e.settingsIn c.session).1 = .ok settings) (h : ∀ s : Scheme, ¬ s.IsNamedBy asked)
    (htrue : asked.isTrue = true) (message : Bytes) (count : Option Int) (salt : Option Bytes) :
    (e.encryptEnvelope (some message) asked count salt).result c = .error (.notSupported asked) := by
  obtain ⟨used, -, hresult⟩ := e.result_encryptEnvelope hc hsettings message asked count salt
  rw [hresult, schemeOrDefault_of_isTrue htrue, Descriptor.ofScheme_eq_notSupported h]
  rfl

/-! ### All values -/

/-- **What the engine answers to a scheme that is asked for**, in a call with nothing else wrong. A value that names a
scheme gets this scheme from all three operations. For a value that names none, a mode and a ciphertext are refused as
not supported, by the text of the value if it has one. So is an envelope, but only if the value is true: otherwise the
envelope is made with the default scheme. -/
theorem schemes_answered (hfunction : e.function = Derivation.derive) {given : Secret} {session : Session}
    (hgiven : given.octets? = some password) (hsettings : (e.settingsIn session).1 = .ok settings) (asked : Value)
    (message salt : Bytes) {iterations : Int} (hpos : 1 ≤ iterations) {count : Option Int}
    (hcount : 1 ≤ count.getD settings.defaultIterations) (chosen : Option Bytes) :
    (∀ s : Scheme, s.IsNamedBy asked →
      (∃ mode, (e.encrypterFor asked salt iterations).result (.offering given session) = .ok mode
        ∧ e.modeFor s.descriptor password salt iterations .encrypt = .ok mode)
      ∧ (∃ data, (e.encrypt asked (some message) salt iterations).result (.offering given session) = .ok data
        ∧ e.encrypted s.descriptor password message salt iterations = .ok data)
      ∧ ∃ envelope,
        (e.encryptEnvelope (some message) asked count chosen).result (.offering given session) = .ok envelope
        ∧ envelope.algorithm.algorithm = .text s.oid)
    ∧ ((∀ s : Scheme, ¬ s.IsNamedBy asked) →
      (e.encrypterFor asked salt iterations).result (.offering given session) = .error (.notSupported asked)
      ∧ (e.encrypt asked (some message) salt iterations).result (.offering given session) = .error (.notSupported asked)
      ∧ (asked.isTrue = true →
        (e.encryptEnvelope (some message) asked count chosen).result (.offering given session)
          = .error (.notSupported asked))
      ∧ (¬ asked.isTrue = true →
        ∃ envelope,
          (e.encryptEnvelope (some message) asked count chosen).result (.offering given session) = .ok envelope
          ∧ envelope.algorithm.algorithm = .text settings.defaultScheme.oid))
    ∧ ∀ shown, asked.display = .ok shown → Failure.notSupported asked = .unsupported shown := by
  have hc : (Call.offering given session).Holds password := .of_octets? hgiven session
  refine ⟨fun s hs => ?_, fun hnone => ?_, fun shown => Failure.notSupported_of_display⟩
  · have hfound : Descriptor.ofScheme asked = .ok s.descriptor := Descriptor.ofScheme_eq_ok_iff.mpr ⟨s, hs, rfl⟩
    have hchosen : Descriptor.ofScheme (schemeOrDefault settings asked) = .ok s.descriptor := by
      rw [schemeOrDefault_of_isTrue hs.isTrue, hfound]
    obtain ⟨cipher, vector, -, hmode⟩ := exists_modeFor hfunction s password salt hpos
    obtain ⟨data, hdata⟩ := exists_encrypted hfunction s password message salt hpos
    obtain ⟨used, sealed, hsealed⟩ := exists_envelopeOf hfunction hc hsettings hchosen hcount message chosen
    refine ⟨⟨⟨cipher, Direction.encrypt.label, vector⟩, ?_, hmode .encrypt⟩, ⟨data, ?_, hdata⟩, _, hsealed, rfl⟩
    · rw [e.result_encrypterFor hc, hfound]
      exact hmode .encrypt
    · rw [e.result_encrypt hc, hfound]
      exact hdata
  · refine ⟨result_encrypterFor_of_unnamed hc hnone salt iterations,
      result_encrypt_of_unnamed hc hnone message salt iterations,
      fun htrue => result_encryptEnvelope_of_unnamed hc hsettings hnone htrue message count chosen, fun hfalse => ?_⟩
    -- what is false is replaced before it is looked up
    have hdefault : Descriptor.ofScheme (schemeOrDefault settings asked) = .ok settings.defaultScheme.descriptor := by
      rw [schemeOrDefault_of_not_isTrue hfalse, Descriptor.ofScheme_name]
    obtain ⟨used, sealed, hsealed⟩ := exists_envelopeOf hfunction hc hsettings hdefault hcount message chosen
    exact ⟨_, hsealed, rfl⟩

/-- The empty text names no scheme and is refused twice, and there is an envelope for it, of the default scheme. A name
with a blank behind it is refused in all three places. -/
theorem schemes_answered_empty_text :
    let e := withSettings {}
    let call := Call.offering (.buffer [0, 0x61]) {}
    ((e.encrypterFor (.text "") [0xff] 1).result call = .error (.unsupported "")
      ∧ (e.encrypt (.text "") (some [1, 2, 3]) [0xff] 1).result call = .error (.unsupported "")
      ∧ ∃ envelope, (e.encryptEnvelope (some [1, 2, 3]) (.text "") (some 1) (some [0xff])).result call = .ok envelope
        ∧ envelope.algorithm.algorithm = .text Scheme.tripleDes.oid)
    ∧ (e.encryptEnvelope (some [1, 2, 3]) (.text "pbewithSHAAnd40BitRC2-CBC ") (some 1) (some [0xff])).result call
      = .error (.unsupported "pbewithSHAAnd40BitRC2-CBC ") := by
  intro e call
  -- neither text is the name of a scheme
  have hunnamed : ∀ {text : String}, text ∉ Scheme.all.map Scheme.name → ∀ s : Scheme, ¬ s.IsNamedBy (.text text) := by
    rintro text htext s (h | h)
    · exact absurd h (by simp)
    · exact htext (Value.text.inj h ▸ List.mem_map_of_mem s.mem_all)
  have hgiven : (Secret.buffer [0, 0x61]).octets? = some [0, 0x61] := rfl
  have hsettings : (e.settingsIn {}).1 = .ok {} := rfl
  have hpos : (1 : Int) ≤ 1 := by decide
  have hcount : 1 ≤ (some (1 : Int)).getD ({} : Settings).defaultIterations := by decide
  -- once for the text that is false, and once for one that is not
  obtain ⟨-, hempty, hshown⟩ :=
    schemes_answered rfl hgiven hsettings (.text "") [1, 2, 3] [0xff] hpos hcount (some [0xff])
  obtain ⟨-, hblank, hshown'⟩ :=
    schemes_answered rfl hgiven hsettings (.text "pbewithSHAAnd40BitRC2-CBC ") [1, 2, 3] [0xff] hpos hcount
      (some [0xff])
  -- the same three calls, and only the last of them differs
  obtain ⟨hmode, hdata, -, henvelope⟩ := hempty (hunnamed (by decide))
  obtain ⟨-, -, hrefused, -⟩ := hblank (hunnamed (by decide))
  rw [hshown "" rfl] at hmode hdata
  rw [hshown' _ rfl] at hrefused
  exact ⟨⟨hmode, hdata, henvelope (by decide)⟩, hrefused (by decide)⟩

end Engine

end Shroud
