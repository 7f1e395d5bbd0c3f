import Shroud.Envelope
import Shroud.Proofs.AlgorithmId

/-!
# Envelopes through encrypted private key information

An envelope that was written is read back, and whether it was made here or found in foreign octets makes no difference:

* an envelope of a registered scheme, with any salt, count and ciphertext, survives the way there and back
  (`Envelope.ofPrivateKeyInfo_toPrivateKeyInfo`);
* an envelope that was read is written, unless it has no parameters, and reading again gives the same envelope
  (`Envelope.toPrivateKeyInfo_of_ofPrivateKeyInfo`). So whatever was unusual about the octets is gone after one
  writing, and a second one changes nothing.

Both are cases of one statement on settled parameters (`Envelope.privateKeyInfo_of_settled`). The first step of a
foreign envelope settles them, and a salt and a count of our own are settled from the start. The octets with an
envelope in them are described without a reader by `Envelope.Encoded`.
-/

namespace Shroud

open Ber Algorithm

/-- **The encrypted private key information of a scheme** in its distinguished encoding, around the octets of the
parameters. -/
def Scheme.privateKeyInfo (scheme : Scheme) (parameters data : Bytes) : Bytes :=
  Der.sequence [scheme.identifier parameters, Der.octetString data]

namespace Envelope

variable {e : Envelope} {raw : Bytes}

/-- **Octets that start with an envelope**: a sequence of an identifier and an octet string. Further fields in it do not
matter, nor does what stands behind it. -/
inductive Encoded (e : Envelope) : Bytes → Prop where
  | mk {whole algorithm data : Element} {more : List Element} (hwhole : whole.WellFormed)
      (hfields : whole.IsSequence (algorithm :: data :: more)) (halgorithm : AlgorithmId.HeldBy algorithm e.algorithm)
      (hdata : data.IsOctetString e.data) (rest : Bytes) : Encoded e (whole.octets ++ rest)

/-- The children are those of the sequence that the octets start with. -/
theorem fields?_eq_some_iff {fields : List Element} :
    fields? raw = some fields
      ↔ ∃ whole rest, raw = Element.octets whole ++ rest ∧ whole.WellFormed ∧ whole.IsSequence fields := by
  unfold fields?
  rw [Option.bind_eq_some_iff]
  constructor
  · rintro ⟨⟨whole, rest⟩, hread, hfields⟩
    obtain ⟨hwhole, hraw⟩ := Element.read_eq_some_iff.mp hread
    exact ⟨whole, rest, hraw, hwhole, Element.sequence?_eq_some_iff.mp hfields⟩
  · rintro ⟨whole, rest, rfl, hwhole, hfields⟩
    exact ⟨(whole, rest), hwhole.read_octets_append rest, Element.sequence?_eq_some_iff.mpr hfields⟩

/-- What is not found is malformed. -/
theorem found_eq_ok_iff {o : Option Bytes} {bs : Bytes} : found o = .ok bs ↔ o = some bs := by
  cases o with
  | none => simp [found]
  | some octets => simp [found]

/-- **The envelope that is read is the one that the octets start with.** -/
theorem ofPrivateKeyInfo_eq_ok_iff : ofPrivateKeyInfo raw = .ok e ↔ e.Encoded raw := by
  constructor
  · intro h
    unfold ofPrivateKeyInfo at h
    split at h
    -- the identifier and the octets are read, in this order, and nothing behind them
    · next algorithm data more hfields =>
      obtain ⟨whole, rest, rfl, hwhole, hsequence⟩ := fields?_eq_some_iff.mp hfields
      obtain ⟨a, halgorithm, h⟩ := bind_eq_ok_iff.mp h
      obtain ⟨bs, hdata, h⟩ := bind_eq_ok_iff.mp h
      obtain rfl := Except.ok.inj h
      exact .mk hwhole hsequence (AlgorithmId.ofElement_eq_ok_iff.mp halgorithm)
        (Element.octetString?_eq_some_iff.mp (found_eq_ok_iff.mp hdata)) rest
    · exact absurd h (by simp)
  · intro h
    cases h with
    | mk hwhole hfields halgorithm hdata rest =>
      have hfound := fields?_eq_some_iff.mpr ⟨_, rest, rfl, hwhole, hfields⟩
      rw [ofPrivateKeyInfo, hfound]
      refine bind_eq_ok_iff.mpr ⟨_, AlgorithmId.ofElement_eq_ok_iff.mpr halgorithm, ?_⟩
      exact bind_eq_ok_iff.mpr ⟨_, found_eq_ok_iff.mpr (Element.octetString?_eq_some_iff.mpr hdata), rfl⟩

/-- **Settled parameters go there and back.** -/
theorem privateKeyInfo_of_settled (scheme : Scheme) {parameters data : Bytes} (hsettled : Form.Settled parameters)
    (hlength : 2 * (parameters.length + data.length) + 48 < Der.lengthBound) :
    toPrivateKeyInfo ⟨⟨.text scheme.oid, parameters⟩, data⟩ = .ok (scheme.privateKeyInfo parameters data)
      ∧ ofPrivateKeyInfo (scheme.privateKeyInfo parameters data)
        = .ok ⟨⟨.text scheme.oid, parameters⟩, data⟩ := by
  constructor
  · exact bind_eq_ok_iff.mpr ⟨_, AlgorithmId.encode_of_settled scheme hsettled, rfl⟩
  · obtain ⟨algorithm, halgorithmWell, halgorithmOctets, hheld⟩ :=
      AlgorithmId.exists_heldBy scheme hsettled (by omega)
    obtain ⟨field, hfieldWell, hfieldOctets, hdata⟩ := @Element.exists_octetString data (by omega)
    have hwell : ∀ f ∈ [algorithm, field], f.WellFormed := by
      simpa using ⟨halgorithmWell, hfieldWell⟩
    -- both parts are short, so they fit into one sequence
    have hcontents : ([algorithm, field].flatMap Element.octets).length < Der.lengthBound := by
      have halgorithm := scheme.length_identifier_le parameters
      have hfield : (Der.octetString data).length ≤ 2 * data.length + 2 := Element.length_element_le 0x04 data
      simp only [List.flatMap_cons, List.flatMap_nil, List.append_nil, List.length_append, halgorithmOctets,
        hfieldOctets]
      omega
    obtain ⟨whole, hwholeWell, hwholeOctets, hwholeFields⟩ := Element.exists_sequence hwell hcontents
    have hoctets : scheme.privateKeyInfo parameters data = whole.octets ++ [] := by
      rw [List.append_nil, hwholeOctets, List.map_cons, List.map_cons, List.map_nil, halgorithmOctets, hfieldOctets]
      rfl
    rw [hoctets]
    exact ofPrivateKeyInfo_eq_ok_iff.mpr (.mk hwholeWell hwholeFields hheld hdata [])

/-- **An envelope survives the way there and back**: the text of the identifier, the octets of the parameters and the
ciphertext are the same again. The salt may have any length, also one whose encoding looks like an indefinite one, the
count any size and sign, and the ciphertext may be empty. -/
theorem ofPrivateKeyInfo_toPrivateKeyInfo (scheme : Scheme) {p : Parameters} {data : Bytes}
    (hshort : Der.Short (p.encode.length + data.length)) :
    let e : Envelope := ⟨⟨.text scheme.oid, p.encode⟩, data⟩
    ∃ der, e.toPrivateKeyInfo = .ok der ∧ der = scheme.privateKeyInfo p.encode data
      ∧ ofPrivateKeyInfo der = .ok e := by
  intro e
  have hfits : p.Fits := hshort.lt (by omega)
  have hlength : 2 * (p.encode.length + data.length) + 48 < Der.lengthBound := hshort.lt (by omega)
  obtain ⟨hwrite, hread⟩ := privateKeyInfo_of_settled scheme (Form.settled_encode hfits) hlength
  exact ⟨_, hwrite, rfl, hread⟩

/-- The header of the parameters is three octets long, and the last of them tells the length 128 like an indefinite one.
There is no ciphertext. -/
theorem ofPrivateKeyInfo_toPrivateKeyInfo_marked_header :
    let p : Parameters := ⟨List.replicate 123 0xab, 7⟩
    let e : Envelope := ⟨⟨.text Scheme.tripleDes.oid, p.encode⟩, []⟩
    p.encode.take 3 = [0x30, 0x81, 0x80]
      ∧ Der.Short (p.encode.length + 0)
      ∧ ∃ der, e.toPrivateKeyInfo = .ok der ∧ ofPrivateKeyInfo der = .ok e := by
  intro p e
  have hshort : Der.Short (p.encode.length + ([] : Bytes).length) := by decide +kernel
  obtain ⟨der, hwrite, -, hread⟩ := ofPrivateKeyInfo_toPrivateKeyInfo .tripleDes hshort
  exact ⟨by decide +kernel, hshort, der, hwrite, hread⟩

/-! ### Foreign octets -/

/-- **Without parameters nothing is written.** -/
theorem toPrivateKeyInfo_of_no_parameters (h : e.algorithm.parameters = []) :
    e.toPrivateKeyInfo = .error (.misuse (.encoding .malformed)) := by
  have hnone : e.algorithm.parameterSequence? = none := by
    rw [AlgorithmId.parameterSequence?, h]
    rfl
  have hencode : e.algorithm.encode = .error (.misuse (.encoding .malformed)) := by
    rw [AlgorithmId.encode, hnone]
  rw [toPrivateKeyInfo, hencode]
  rfl

/-- **The parameters that are read are settled**, if there are any, and short enough to be written. -/
theorem settled_of_encoded {scheme : Scheme} (h : e.Encoded raw)
    (hscheme : e.algorithm.algorithm = .text scheme.oid) (hshort : Der.Short raw.length)
    (hparameters : e.algorithm.parameters ≠ []) :
    Form.Settled e.algorithm.parameters
      ∧ 2 * (e.algorithm.parameters.length + e.data.length) + 48 < Der.lengthBound := by
  obtain ⟨a, bs⟩ := e
  cases h with
  | @mk whole algorithm data more hwhole hfields halgorithm hdata rest =>
    have halgorithmWell := hfields.wellFormed algorithm (by simp)
    have hdataWell := hfields.wellFormed data (by simp)
    cases halgorithm with
    | bare _ => exact absurd rfl hparameters
    | @full name parameters others octets hname hwritten =>
      obtain rfl : name = scheme.oid := Value.text.inj hscheme
      rw [scheme.parameterForm_oid] at hwritten
      have hwell : parameters.WellFormed := by
        obtain ⟨hfields', -⟩ := hname
        exact hfields'.wellFormed parameters (by simp)
      -- the parameters stand in the identifier, which stands beside the ciphertext
      have hoctets := Form.length_le_of_written hwritten
      have hinside := AlgorithmId.length_octets_lt_of_identifies halgorithmWell hname
      have hbytes := hdata.spells.length_le.trans_lt (Element.length_contents_lt hdataWell)
      have hsides := hfields.length_add_le
      have hcontents := Element.length_contents_lt hwhole
      rw [List.length_append] at hshort
      have hlength : octets.length < Der.lengthBound := hshort.lt (by omega)
      refine ⟨Form.settled_of_written hwell hwritten hlength, hshort.lt ?_⟩
      dsimp only at hbytes ⊢
      omega

/-- **Writing what was read settles it.** Whatever octets an envelope of a registered scheme was read from: if it is
written, then reading what was written gives the same envelope, and writing that gives the same octets. And it is
written, unless it has no parameters. -/
theorem toPrivateKeyInfo_of_ofPrivateKeyInfo {scheme : Scheme} (hread : ofPrivateKeyInfo raw = .ok e)
    (hscheme : e.algorithm.algorithm = .text scheme.oid) (hshort : Der.Short raw.length) :
    (∀ der, e.toPrivateKeyInfo = .ok der →
        ofPrivateKeyInfo der = .ok e ∧ (ofPrivateKeyInfo der >>= toPrivateKeyInfo) = .ok der)
      ∧ ((∃ der, e.toPrivateKeyInfo = .ok der) ↔ e.algorithm.parameters ≠ []) := by
  by_cases hparameters : e.algorithm.parameters = []
  -- an envelope that was read without parameters cannot be written
  · have hrefused := toPrivateKeyInfo_of_no_parameters hparameters
    have hnot : ∀ der, e.toPrivateKeyInfo ≠ .ok der := by
      intro der hwrite
      exact absurd (hrefused.symm.trans hwrite) (by simp)
    constructor
    · intro der hwrite
      exact absurd hwrite (hnot der)
    · exact iff_of_false (fun ⟨der, hwrite⟩ => hnot der hwrite) (not_not.mpr hparameters)
  · obtain ⟨hsettled, hlength⟩ :=
      settled_of_encoded (ofPrivateKeyInfo_eq_ok_iff.mp hread) hscheme hshort hparameters
    obtain ⟨hwritten, hagain⟩ := privateKeyInfo_of_settled scheme hsettled hlength
    -- reading settles the parameters, so the envelope is what its scheme writes
    have hsame : (⟨⟨.text scheme.oid, e.algorithm.parameters⟩, e.data⟩ : Envelope) = e := by rw [← hscheme]
    rw [hsame] at hwritten hagain
    constructor
    · intro der hwrite
      obtain rfl := Except.ok.inj (hwritten.symm.trans hwrite)
      exact ⟨hagain, bind_eq_ok_iff.mpr ⟨e, hagain, hwritten⟩⟩
    · exact iff_of_true ⟨_, hwritten⟩ hparameters

/-- Nothing in these octets is in the distinguished form. No sequence has a length, the object identifier has a group of
zeros, the salt and the ciphertext are in chunks, a zero stands in front of the count, and null elements and an octet
stand where they do not matter. -/
theorem toPrivateKeyInfo_of_ofPrivateKeyInfo_foreign :
    let raw : Bytes :=
      [0x30, 0x80,
        0x30, 0x80,
          0x06, 0x0b, 0x2a, 0x86, 0x48, 0x86, 0xf7, 0x0d, 0x01, 0x0c, 0x01, 0x80, 0x03,
          0x30, 0x80, 0x24, 0x80, 0x04, 0x01, 0xff, 0x00, 0x00, 0x02, 0x02, 0x00, 0x07, 0x05, 0x00, 0x00, 0x00,
          0x05, 0x00, 0x00, 0x00,
        0x24, 0x80, 0x04, 0x02, 0x01, 0x02, 0x04, 0x00, 0x00, 0x00,
        0x05, 0x00, 0x00, 0x00,
      0x01]
    let e : Envelope := ⟨⟨.text Scheme.tripleDes.oid, Parameters.encode ⟨[0xff], 7⟩⟩, [0x01, 0x02]⟩
    ofPrivateKeyInfo raw = .ok e ∧ Der.Short raw.length
      ∧ ∃ der, e.toPrivateKeyInfo = .ok der ∧ ofPrivateKeyInfo der = .ok e
        ∧ (ofPrivateKeyInfo der >>= toPrivateKeyInfo) = .ok der := by
  intro raw e
  let null : Element := ⟨⟨.universal, false, 5, some 0, [0x05, 0x00]⟩, []⟩
  let oid : Element := ⟨⟨.universal, false, 6, some 11, [0x06, 0x0b]⟩, (raw.drop 6).take 11⟩
  let parameters : Element := ⟨⟨.universal, true, 16, none, [0x30, 0x80]⟩, (raw.drop 19).take 13⟩
  let algorithm : Element := ⟨⟨.universal, true, 16, none, [0x30, 0x80]⟩, (raw.drop 4).take 32⟩
  let data : Element := ⟨⟨.universal, true, 4, none, [0x24, 0x80]⟩, (raw.drop 40).take 6⟩
  let whole : Element := ⟨⟨.universal, true, 16, none, [0x30, 0x80]⟩, (raw.drop 2).take 48⟩
  -- the octet behind is left over, and indefinite lengths are taken at every level
  have hwhole : Element.read raw = some (whole, [0x01]) := rfl
  have hfields : whole.sequence? = some [algorithm, data, null] := rfl
  have hinside : algorithm.sequence? = some [oid, parameters, null] := rfl
  -- a group of zeros in front of the last number does not change it
  have hoid : ObjectIdentifier.ofElement? oid = some Scheme.tripleDes.oid := by decide +kernel
  have hname : AlgorithmId.Identifies algorithm Scheme.tripleDes.oid [parameters, null] :=
    ⟨Element.sequence?_eq_some_iff.mp hinside, hoid⟩
  have hwritten : Form.saltAndCount.written parameters = .ok e.algorithm.parameters :=
    Form.written_eq_ok_iff.mpr ⟨rfl, rfl, .anew rfl rfl⟩
  rw [← Scheme.tripleDes.parameterForm_oid] at hwritten
  have hdata : data.IsOctetString e.data := Element.octetString?_eq_some_iff.mp rfl
  have hread : ofPrivateKeyInfo raw = .ok e := by
    obtain ⟨hwell, hraw⟩ := Element.read_eq_some_iff.mp hwhole
    rw [hraw]
    exact ofPrivateKeyInfo_eq_ok_iff.mpr
      (.mk hwell (Element.sequence?_eq_some_iff.mp hfields) (.full hname hwritten) hdata [0x01])
  have hshort : Der.Short raw.length := by decide
  obtain ⟨hagain, hwrites⟩ := toPrivateKeyInfo_of_ofPrivateKeyInfo hread rfl hshort
  obtain ⟨der, hwrite⟩ := hwrites.mpr (Parameters.encode_ne_nil _)
  exact ⟨hread, hshort, der, hwrite, hagain der hwrite⟩

end Envelope

end Shroud
