import Shroud.AlgorithmId
import Shroud.Proofs.Algorithm.Writing

/-!
# Identifiers of algorithms, taken out of a structure and put into one

An element holds an identifier if it is a sequence of an object identifier and, perhaps, parameters that can be written
(`AlgorithmId.HeldBy`). That is what is taken out of it (`AlgorithmId.ofElement_eq_ok_iff`).

Registered schemes prescribe a salt and a count, so what holds of these as they are written holds of the parameters of
identifiers:

* parameters that were taken out decode to what the octets decode to that they were taken from
  (`AlgorithmId.derivationParameters_of_read`);
* an identifier whose parameters are settled is written, and what is written holds it
  (`AlgorithmId.encode_of_settled`, `AlgorithmId.exists_heldBy`), as of any algorithm that may have such parameters
  (`AlgorithmId.encode_of_identified`, `AlgorithmId.exists_heldBy_of_written`).
-/

namespace Shroud

open Ber Algorithm

/-! ### The object identifiers of the schemes -/

namespace Scheme

/-- The contents of a scheme's object identifier. -/
def oidContents : Scheme → Bytes
  | tripleDes => [0x2a, 0x86, 0x48, 0x86, 0xf7, 0x0d, 0x01, 0x0c, 0x01, 0x03]
  | rc2 => [0x2a, 0x86, 0x48, 0x86, 0xf7, 0x0d, 0x01, 0x0c, 0x01, 0x06]

variable (scheme : Scheme)

theorem length_oidContents : scheme.oidContents.length = 10 := by
  cases scheme <;> rfl

/-- The ten octets of an identifier spell it in digits and dots. -/
theorem dotted?_oidContents : ObjectIdentifier.dotted? scheme.oidContents = some scheme.oid := by
  cases scheme <;> decide +kernel

/-- A scheme is identified by its text. -/
theorem identified_oid (parameters : Bytes) :
    AlgorithmId.identified ⟨.text scheme.oid, parameters⟩ = .ok (scheme.oid, scheme.oidContents) := by
  have hcontents : ObjectIdentifier.contents? ((Registry.oidOfName? scheme.oid).getD scheme.oid)
      = some scheme.oidContents := by
    cases scheme <;> decide +kernel
  have hoid : AlgorithmId.oidContents scheme.oid = .ok scheme.oidContents := by
    rw [AlgorithmId.oidContents, hcontents]
  exact bind_eq_ok_iff.mpr ⟨scheme.oid, rfl, bind_eq_ok_iff.mpr ⟨_, hoid, rfl⟩⟩

/-- The parameters of every scheme are a salt and a count. -/
theorem parameterForm_oid : Registry.parameterForm .cipher scheme.oid = .saltAndCount := by
  cases scheme <;> decide +kernel

theorem takesSaltAndCount_oid : AlgorithmId.takesSaltAndCount scheme.oid scheme.oidContents = true := by
  cases scheme <;> decide +kernel

/-- The encoding of a scheme's identifier, around the octets of the parameters. -/
def identifier (parameters : Bytes) : Bytes :=
  Der.sequence [ObjectIdentifier.element scheme.oidContents, parameters]

/-- An identifier is not much longer than its parameters. -/
theorem length_identifier_le (parameters : Bytes) :
    (scheme.identifier parameters).length ≤ 2 * parameters.length + 46 := by
  have hoid := Element.length_element_le 0x06 scheme.oidContents
  have hwhole := Element.length_element_le 0x30 (ObjectIdentifier.element scheme.oidContents ++ parameters)
  have hcontents : [ObjectIdentifier.element scheme.oidContents, parameters].flatten
      = ObjectIdentifier.element scheme.oidContents ++ parameters := by simp
  rw [scheme.length_oidContents] at hoid
  rw [List.length_append] at hwhole
  rw [identifier, Der.sequence, hcontents]
  simp only [ObjectIdentifier.element] at hwhole ⊢
  omega

end Scheme

namespace AlgorithmId

variable {e : Element} {name : String} {a : AlgorithmId}

/-! ### What is taken out -/

/-- **An element that identifies the algorithm `name`**: a sequence of an object identifier with this text, and of
further fields. -/
inductive Identifies (e : Element) (name : String) (fields : List Element) : Prop where
  | mk {oid : Element} (hfields : e.IsSequence (oid :: fields))
      (hname : ObjectIdentifier.ofElement? oid = some name) : Identifies e name fields

/-- **The identifier that an element holds**: the first field behind the name are the parameters, as they are written,
and what stands behind them does not matter. Without any field there are no parameters. -/
inductive HeldBy (e : Element) : AlgorithmId → Prop where
  | bare {name : String} (hname : Identifies e name []) : HeldBy e ⟨.text name, []⟩
  | full {name : String} {parameters : Element} {more : List Element} {octets : Bytes}
      (hname : Identifies e name (parameters :: more))
      (hwritten : (Registry.parameterForm .cipher name).written parameters = .ok octets) :
      HeldBy e ⟨.text name, octets⟩

/-- **What is taken out of an element is what it holds.** -/
theorem ofElement_eq_ok_iff : ofElement e = .ok a ↔ HeldBy e a := by
  unfold ofElement
  rw [mapError_eq_ok_iff]
  constructor
  · intro h
    obtain ⟨fields, hfields, h⟩ := bind_eq_ok_iff.mp h
    have hsequence := Element.sequence?_eq_some_iff.mp (orMalformed_eq_ok_iff.mp hfields)
    -- there are no parameters, or they are the second child, whatever comes behind
    match fields, h with
    | [oid], h =>
      obtain ⟨name, hname, h⟩ := bind_eq_ok_iff.mp h
      obtain rfl := Except.ok.inj h
      exact .bare ⟨hsequence, orMalformed_eq_ok_iff.mp hname⟩
    | oid :: parameters :: more, h =>
      obtain ⟨name, hname, h⟩ := bind_eq_ok_iff.mp h
      obtain ⟨octets, hwritten, h⟩ := bind_eq_ok_iff.mp h
      obtain rfl := Except.ok.inj h
      exact .full ⟨hsequence, orMalformed_eq_ok_iff.mp hname⟩ hwritten
  · intro h
    cases h with
    | bare hname =>
      obtain ⟨hfields, hname⟩ := hname
      have hfields := orMalformed_eq_ok_iff.mpr (Element.sequence?_eq_some_iff.mpr hfields)
      exact bind_eq_ok_iff.mpr ⟨_, hfields, bind_eq_ok_iff.mpr ⟨_, orMalformed_eq_ok_iff.mpr hname, rfl⟩⟩
    | full hname hwritten =>
      obtain ⟨hfields, hname⟩ := hname
      have hfields := orMalformed_eq_ok_iff.mpr (Element.sequence?_eq_some_iff.mpr hfields)
      refine bind_eq_ok_iff.mpr ⟨_, hfields, bind_eq_ok_iff.mpr ⟨_, orMalformed_eq_ok_iff.mpr hname, ?_⟩⟩
      exact bind_eq_ok_iff.mpr ⟨_, hwritten, rfl⟩

/-- Octets are read as the element that they start with. -/
theorem read_of_wellFormed (h : e.WellFormed) (rest : Bytes) : read (e.octets ++ rest) = ofElement e := by
  rw [read, h.read_octets_append]

/-- The parameters of a registered scheme are the field behind its name, as it is written. -/
theorem written_of_heldBy {scheme : Scheme} {parameters : Element} {more : List Element} (h : HeldBy e a)
    (hname : Identifies e scheme.oid (parameters :: more)) :
    Form.saltAndCount.written parameters = .ok a.parameters := by
  obtain ⟨hfields, hoid⟩ := hname
  have hsequence := Element.sequence?_eq_some_iff.mpr hfields
  cases h with
  | bare hname =>
    obtain ⟨hfields', -⟩ := hname
    have hsame := hsequence.symm.trans (Element.sequence?_eq_some_iff.mpr hfields')
    exact absurd hsame (by simp)
  | @full name found others octets hname hwritten =>
    obtain ⟨hfields', hoid'⟩ := hname
    -- an element has only one row of fields, and the first of them only one text
    have hsame := hsequence.symm.trans (Element.sequence?_eq_some_iff.mpr hfields')
    obtain ⟨rfl, hothers⟩ := List.cons.inj (Option.some.inj hsame)
    obtain ⟨rfl, -⟩ := List.cons.inj hothers
    obtain rfl := Option.some.inj (hoid.symm.trans hoid')
    rwa [scheme.parameterForm_oid] at hwritten

/-- Parameters are shorter than the element that they stand in. -/
theorem length_octets_lt_of_identifies {parameters : Element} {more : List Element}
    (hwell : e.WellFormed) (h : Identifies e name (parameters :: more)) :
    parameters.octets.length < e.octets.length := by
  obtain ⟨hfields, -⟩ := h
  have hcontents := Element.length_contents_lt hwell
  have hsides := hfields.length_add_le
  omega

/-- **Taking parameters out of a structure does not change what they decode to.** Whatever the octets of an identifier
of a registered scheme look like, with further fields or not, and whatever stands behind them: what is taken out decodes
like the octets of the parameters in it, under every ceiling. Where no count is too long to tell, both give the same
parameters, or both are refused as parameters. -/
theorem derivationParameters_of_read {scheme : Scheme} {parameters : Element} {more : List Element} {rest : Bytes}
    (hwell : e.WellFormed) (hname : Identifies e scheme.oid (parameters :: more))
    (hshort : Der.Short e.octets.length) (hread : read (e.octets ++ rest) = .ok a) (limit : Option Int) :
    a.derivationParameters limit = Parameters.decode parameters.octets limit
      ∧ ((∀ p : Parameters, (∃ fields, p.Encoded fields parameters.octets) → ¬ p.Unreportable limit) →
          (∃ p, a.derivationParameters limit = .ok p ∧ Parameters.decode parameters.octets limit = .ok p)
            ∨ ∃ fault, a.derivationParameters limit = .error (.parameters fault)
                ∧ Parameters.decode parameters.octets limit = .error (.parameters fault)) := by
  have hheld : HeldBy e a := by
    rw [read_of_wellFormed hwell] at hread
    exact ofElement_eq_ok_iff.mp hread
  have hwritten := written_of_heldBy hheld hname
  have hfield : parameters.WellFormed := by
    obtain ⟨hfields, -⟩ := hname
    exact hfields.wellFormed parameters (by simp)
  -- written anew they stay below the bound of lengths
  have hlength : a.parameters.length < Der.lengthBound := by
    have hfew := Form.length_le_of_written hwritten
    have hpart := length_octets_lt_of_identifies hwell hname
    exact hshort.lt (by omega)
  -- decoding does not see whether they were written anew
  have hsame : a.derivationParameters limit = Parameters.decode parameters.octets limit :=
    Form.decode_of_written hfield hwritten hlength limit
  refine ⟨hsame, fun hreportable => ?_⟩
  rw [hsame]
  rcases Parameters.decode_cases hreportable with ⟨p, hp⟩ | ⟨fault, hfault⟩
  · exact .inl ⟨p, hp, hp⟩
  · exact .inr ⟨fault, hfault, hfault⟩

/-- An identifier of indefinite length holds parameters of indefinite length, with the salt in a chunk and a zero in
front of the count, and a null element. The parameters are written anew, and are accepted and refused as they were. -/
theorem derivationParameters_of_read_indefinite :
    let parameters : Element :=
      ⟨⟨.universal, true, 16, none, [0x30, 0x80]⟩,
        [0x24, 0x80, 0x04, 0x01, 0xff, 0x00, 0x00, 0x02, 0x02, 0x00, 0x07]⟩
    let e : Element :=
      ⟨⟨.universal, true, 16, none, [0x30, 0x80]⟩,
        ObjectIdentifier.element Scheme.rc2.oidContents ++ parameters.octets ++ [0x05, 0x00]⟩
    ∃ a, read (e.octets ++ [0x01]) = .ok a
      ∧ a.parameters = [0x30, 0x06, 0x04, 0x01, 0xff, 0x02, 0x01, 0x07]
      ∧ (a.derivationParameters (some 7) = .ok ⟨[0xff], 7⟩
        ∧ Parameters.decode parameters.octets (some 7) = .ok ⟨[0xff], 7⟩)
      ∧ ∃ fault, a.derivationParameters (some 6) = .error (.parameters fault)
        ∧ Parameters.decode parameters.octets (some 6) = .error (.parameters fault) := by
  intro parameters e
  have hread : Element.read e.octets = some (e, []) := rfl
  have hwell : e.WellFormed := (Element.read_eq_some_iff.mp hread).1
  let oid : Element := Element.ofContents 0x06 Scheme.rc2.oidContents
  let null : Element := ⟨⟨.universal, false, 5, some 0, [0x05, 0x00]⟩, []⟩
  have hfields : e.sequence? = some [oid, parameters, null] := rfl
  -- the child behind the parameters is not looked at
  have hname : Identifies e Scheme.rc2.oid [parameters, null] :=
    ⟨Element.sequence?_eq_some_iff.mp hfields, Scheme.rc2.dotted?_oidContents⟩
  have hvalue : Parameters.ofElement? parameters = some ⟨[0xff], 7⟩ := rfl
  -- the parameters end in an indefinite mark, so they are written anew
  have hwritten : Form.saltAndCount.written parameters = .ok (Parameters.encode ⟨[0xff], 7⟩) :=
    Form.written_eq_ok_iff.mpr ⟨rfl, rfl, .anew rfl hvalue⟩
  rw [← Scheme.rc2.parameterForm_oid] at hwritten
  have htaken : read (e.octets ++ [0x01]) = .ok ⟨.text Scheme.rc2.oid, Parameters.encode ⟨[0xff], 7⟩⟩ := by
    rw [read_of_wellFormed hwell]
    exact ofElement_eq_ok_iff.mpr (.full hname hwritten)
  have hsame := derivationParameters_of_read hwell hname (by decide) htaken
  have hdecode : Parameters.decode parameters.octets (some 7) = .ok ⟨[0xff], 7⟩ := rfl
  refine ⟨_, htaken, rfl, ⟨(hsame (some 7)).1.trans hdecode, hdecode⟩, ?_⟩
  -- the only parameters that the octets encode have a count of one digit
  have hvalue' : Parameters.read? parameters.octets = some ⟨[0xff], 7⟩ := rfl
  have hreportable : ∀ p : Parameters, (∃ fields, p.Encoded fields parameters.octets) →
      ¬ p.Unreportable (some 6) := by
    intro p hencoded
    obtain rfl := Option.some.inj (hvalue'.symm.trans (Parameters.read?_eq_some_iff.mpr hencoded))
    exact Parameters.not_unreportable (by decide +kernel) (by decide +kernel)
  rcases (hsame (some 6)).2 hreportable with ⟨p, -, hp⟩ | hrefused
  · obtain ⟨-, hp, -, hle⟩ := Parameters.decode_eq_ok_iff.mp hp
    obtain rfl := Option.some.inj (hvalue'.symm.trans hp)
    exact absurd (hle 6 rfl) (by decide)
  · exact hrefused

/-! ### What is put in -/

/-- The text of an object identifier is the usual one, so it tells whether the algorithm is a known cipher. -/
theorem takesSaltAndCount_of_dotted {contents : Bytes} (hname : ObjectIdentifier.dotted? contents = some name)
    (hform : Registry.parameterForm .cipher name = .any ∨ Registry.parameterForm .cipher name = .saltAndCount) :
    takesSaltAndCount name contents = true := by
  change Registry.namedForm name name = .any ∨ Registry.namedForm name name = .saltAndCount at hform
  rw [takesSaltAndCount, hname, Option.getD_some]
  rcases hform with hany | hboth
  · rw [hany]
  · rw [hboth]

/-- **An identifier is written** with its parameters as they are, if they are settled. -/
theorem encode_of_identified {contents : Bytes} (hid : a.identified = .ok (name, contents))
    (htakes : takesSaltAndCount name contents = true) (h : Form.Settled a.parameters) :
    encode a = .ok (Der.sequence [ObjectIdentifier.element contents, a.parameters]) := by
  obtain ⟨e, hwell, hoctets, hwritten⟩ := h
  have hsequence : a.parameterSequence? = some e := by
    obtain ⟨htag, hconstructed, -⟩ := Form.written_eq_ok_iff.mp hwritten
    rw [parameterSequence?, ← hoctets, hwell.read_octets, Option.map_some, Option.filter_some, htag, hconstructed]
    rfl
  unfold encode
  rw [hsequence, hid]
  simp only [htakes, if_true, hwritten]

/-- **What is written holds the identifier.** -/
theorem exists_heldBy_of_written {contents octets : Bytes} {field : Element}
    (hname : ObjectIdentifier.dotted? contents = some name) (hwell : field.WellFormed)
    (hwritten : (Registry.parameterForm .cipher name).written field = .ok octets)
    (hlength : (ObjectIdentifier.element contents ++ field.octets).length < Der.lengthBound) :
    ∃ e : Element, e.WellFormed ∧ e.octets = Der.sequence [ObjectIdentifier.element contents, field.octets]
      ∧ HeldBy e ⟨.text name, octets⟩ := by
  let oid := Element.ofContents 0x06 contents
  have hoidOctets : oid.octets = ObjectIdentifier.element contents := Element.octets_ofContents _ _
  -- each part is shorter than the whole
  have hcontents : contents.length < Der.lengthBound := by
    have hpart := Element.length_lt_length_element 0x06 contents
    rw [List.length_append] at hlength
    simp only [ObjectIdentifier.element] at hlength
    omega
  have hoidWell : oid.WellFormed := Element.nests_ofContents (by decide) hcontents depthLimit
  have hfields : ∀ f ∈ [oid, field], f.WellFormed := by
    simpa using ⟨hoidWell, hwell⟩
  have hflat : ([oid, field].flatMap Element.octets).length < Der.lengthBound := by
    simpa [hoidOctets] using hlength
  obtain ⟨e, heWell, heOctets, heFields⟩ := Element.exists_sequence hfields hflat
  refine ⟨e, heWell, ?_, .full ⟨heFields, hname⟩ hwritten⟩
  rw [heOctets, List.map_cons, List.map_cons, List.map_nil, hoidOctets]

/-- **An identifier of a registered scheme is written** with settled parameters. -/
theorem encode_of_settled (scheme : Scheme) {parameters : Bytes} (h : Form.Settled parameters) :
    encode ⟨.text scheme.oid, parameters⟩ = .ok (scheme.identifier parameters) :=
  encode_of_identified (scheme.identified_oid parameters) scheme.takesSaltAndCount_oid h

/-- What is written for a registered scheme holds the identifier. -/
theorem exists_heldBy (scheme : Scheme) {parameters : Bytes} (h : Form.Settled parameters)
    (hlength : parameters.length + 22 < Der.lengthBound) :
    ∃ e : Element, e.WellFormed ∧ e.octets = scheme.identifier parameters
      ∧ HeldBy e ⟨.text scheme.oid, parameters⟩ := by
  obtain ⟨field, hwell, rfl, hwritten⟩ := h
  rw [← scheme.parameterForm_oid] at hwritten
  refine exists_heldBy_of_written scheme.dotted?_oidContents hwell hwritten ?_
  have hoid := Element.length_element_le 0x06 scheme.oidContents
  rw [scheme.length_oidContents] at hoid
  rw [List.length_append, ObjectIdentifier.element]
  omega

end AlgorithmId

end Shroud
