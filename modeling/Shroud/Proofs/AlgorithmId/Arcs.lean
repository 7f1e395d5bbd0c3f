import Shroud.Proofs.AlgorithmId
import Shroud.Proofs.Ber.ObjectIdentifier

/-!
# Algorithms given by their arcs

Integers in a tuple or in a list name the same algorithm as their usual text (`AlgorithmId.make_of_givenAs`). The text
of arcs is not the name of a known algorithm, for these have letters in them, so what it is encoded as does not depend
on the names that are known (`Registry.oidOfName?_dotted`).

Hence identifiers with a salt and a count survive the way there and back for every object identifier that may have such
parameters (`AlgorithmId.read_encode_of_arcs`), and not only for those of the registered schemes. Three facts meet here:
arcs are read back from their octets, parameters are written as they are, and a sequence of both holds the identifier.
-/

namespace Shroud

open Ber Algorithm

/-- An integer with few enough digits is displayed by them. -/
theorem Value.display_int {n : Int} (h : Decimal.inBounds n = true) :
    Value.display (.int n) = .ok (Decimal.ofInt n) := by
  have hinspect : Value.display (.int n) = Value.ofInteger n := by
    simp only [Value.display, Value.inspect]
  have hshort : ∀ {s : String}, Decimal.text? n = some s → Value.ofInteger n = .ok s := by
    intro s hs
    unfold Value.ofInteger
    rw [hs]
  exact hinspect.trans (hshort (Decimal.text?_of_inBounds h))

/-- No known algorithm has a name that is the text of arcs. -/
theorem Algorithm.Registry.oidOfName?_dotted (arcs : List Int) :
    Registry.oidOfName? (ObjectIdentifier.dotted arcs) = none := by
  -- every registered name has a letter in it
  have hnames : (Registry.ciphers.all fun known => known.name.toList.any fun c =>
      !(c == '.' || decide (Decimal.IsSymbol c))) = true := by
    decide +kernel
  rw [Registry.oidOfName?, Option.map_eq_none_iff, List.find?_eq_none]
  intro known hknown hname
  obtain ⟨c, hc, hnot⟩ := List.any_eq_true.mp (List.all_eq_true.mp hnames known hknown)
  rw [eq_of_beq hname] at hc
  obtain ⟨hdot, hsymbol⟩ : ¬ c = '.' ∧ ¬ Decimal.IsSymbol c := by
    simpa using hnot
  exact (ObjectIdentifier.isSymbol_of_mem_dotted hc).elim hdot hsymbol

namespace AlgorithmId

/-! ### Arcs as they are given -/

/-- **The ways in which arcs are given** as an algorithm: their usual text, a tuple, or a list. -/
inductive GivenAs (arcs : List Int) : Value → Prop where
  | text : GivenAs arcs (.text (ObjectIdentifier.dotted arcs))
  | tuple : GivenAs arcs (.tuple (arcs.map .int))
  | list : GivenAs arcs (.list (arcs.map .int))

/-- Arcs are told by their values. -/
theorem map_int_inj {arcs arcs' : List Int} : arcs.map Value.int = arcs'.map Value.int ↔ arcs = arcs' :=
  (List.map_injective_iff.mpr fun _ _ => Value.int.inj).eq_iff

/-- **A value gives no more than one sequence of arcs**, in whatever way. -/
theorem GivenAs.unique {arcs arcs' : List Int} {v : Value} (h : GivenAs arcs v) (h' : GivenAs arcs' v) :
    arcs = arcs' := by
  -- a text, a tuple and a list are different values
  cases h with
  | text =>
    generalize hv : Value.text (ObjectIdentifier.dotted arcs) = v at h'
    cases h' with
    | text => exact ObjectIdentifier.dotted_injective (Value.text.inj hv)
    | _ => exact absurd hv (by simp)
  | tuple =>
    generalize hv : Value.tuple (arcs.map .int) = v at h'
    cases h' with
    | tuple => exact map_int_inj.mp (Value.tuple.inj hv)
    | _ => exact absurd hv (by simp)
  | list =>
    generalize hv : Value.list (arcs.map .int) = v at h'
    cases h' with
    | list => exact map_int_inj.mp (Value.list.inj hv)
    | _ => exact absurd hv (by simp)

/-- **Arcs are taken as the text of them**, each with a dot behind it but the last. -/
theorem ofArcs_ints {arcs : List Int} (hbounds : ∀ n ∈ arcs, Decimal.inBounds n = true) :
    ofArcs (arcs.map .int) = .ok (.text (ObjectIdentifier.dotted arcs)) := by
  have htexts : (arcs.map Value.int).mapM Value.display = .ok (arcs.map Decimal.ofInt) := by
    induction arcs with
    | nil => rfl
    | cons n arcs ih =>
      obtain ⟨hn, harcs⟩ := List.forall_mem_cons.mp hbounds
      rw [List.map_cons, List.mapM_cons, Value.display_int hn, ih harcs]
      rfl
  rw [ofArcs, htexts]
  rfl

/-- **Arcs give one identifier in every way**, whose algorithm is the usual text. -/
theorem make_of_givenAs {arcs : List Int} (hbounds : ∀ n ∈ arcs, Decimal.inBounds n = true) {v : Value}
    (hv : GivenAs arcs v) (parameters : Bytes) :
    make v parameters = .ok ⟨.text (ObjectIdentifier.dotted arcs), parameters⟩ := by
  cases hv with
  | text => rfl
  | tuple => rw [make, ofArcs_ints hbounds]
  | list => rw [make, ofArcs_ints hbounds]

/-! ### There and back -/

variable {as : List Nat}

/-- A text of arcs is identified by the octets of them. -/
theorem identified_dotted (has : ObjectIdentifier.HasEncoding as) (hbounds : ∀ n ∈ as, n < Decimal.bound)
    (parameters : Bytes) :
    identified ⟨.text (ObjectIdentifier.dotted (as.map fun n : Nat => (n : Int))), parameters⟩
      = .ok (ObjectIdentifier.dotted (as.map fun n : Nat => (n : Int)), ObjectIdentifier.contentsOf as) := by
  have hcontents : oidContents (ObjectIdentifier.dotted (as.map fun n : Nat => (n : Int)))
      = .ok (ObjectIdentifier.contentsOf as) := by
    rw [oidContents, Registry.oidOfName?_dotted, Option.getD_none, ObjectIdentifier.contents?_dotted has hbounds]
  exact bind_eq_ok_iff.mpr ⟨_, rfl, bind_eq_ok_iff.mpr ⟨_, hcontents, rfl⟩⟩

/-- **Identifiers survive the way there and back for every object identifier.** Take arcs that can be encoded, in any of
the ways in which they are given, and a salt and a count as the parameters of an algorithm that may have them. The
identifier is written, and reading what was written gives it again: the usual text of the arcs and the same octets of
the parameters. The only limit is that the whole has a length. -/
theorem read_encode_of_arcs (has : ObjectIdentifier.HasEncoding as) (hbounds : ∀ n ∈ as, n < Decimal.bound) {v : Value}
    (hv : GivenAs (as.map fun n : Nat => (n : Int)) v) {name : String}
    (hname : name = ObjectIdentifier.dotted (as.map fun n : Nat => (n : Int)))
    (hform : Registry.parameterForm .cipher name = .any ∨ Registry.parameterForm .cipher name = .saltAndCount)
    (p : Parameters)
    (hlength : (ObjectIdentifier.element (ObjectIdentifier.contentsOf as) ++ p.encode).length < Der.lengthBound) :
    ∃ a octets, make v p.encode = .ok a ∧ a = ⟨.text name, p.encode⟩ ∧ a.encode = .ok octets ∧ read octets = .ok a := by
  subst hname
  have hfits : p.Fits := by
    rw [List.length_append] at hlength
    rw [Parameters.Fits]
    omega
  have hmake := make_of_givenAs (by simpa using fun n hn => Decimal.inBounds_natCast (hbounds n hn)) hv p.encode
  have hdotted := ObjectIdentifier.dotted?_contentsOf has hbounds
  have hencode := encode_of_identified (identified_dotted has hbounds p.encode)
    (takesSaltAndCount_of_dotted hdotted hform) (Form.settled_encode hfits)
  -- whatever the algorithm prescribes, the parameters are taken out as they are
  have hwritten : (Registry.parameterForm .cipher (ObjectIdentifier.dotted (as.map fun n : Nat => (n : Int)))).written
      p.toElement = .ok p.encode := by
    rcases hform with hany | hboth
    · rw [hany, Form.any_written_toElement]
    · rw [hboth, Form.written_toElement hfits]
  rw [← p.octets_toElement] at hlength
  obtain ⟨e, hwell, hoctets, hheld⟩ := exists_heldBy_of_written hdotted hfits.wellFormed_toElement hwritten hlength
  rw [p.octets_toElement] at hoctets
  refine ⟨_, _, hmake, rfl, hencode, ?_⟩
  have hread := read_of_wellFormed hwell []
  rw [List.append_nil, hoctets] at hread
  rw [hread]
  exact ofElement_eq_ok_iff.mpr hheld

/-- An object identifier whose second arc takes two octets when it is merged, and whose third is above two to the power
of 64. It is given as a tuple. The header of the parameters ends in the mark of an indefinite length. -/
theorem read_encode_of_arcs_large :
    let as : List Nat := [2, 999, 36893488147419103232]
    let p : Parameters := ⟨List.replicate 122 0xab, 1000⟩
    ObjectIdentifier.HasEncoding as ∧ (∀ n ∈ as, n < Decimal.bound)
      ∧ Registry.parameterForm .cipher "2.999.36893488147419103232" = .any
      ∧ p.toElement.endsInIndefiniteMark = true
      ∧ ∃ a octets, make (.tuple [.int 2, .int 999, .int 36893488147419103232]) p.encode = .ok a
          ∧ a = ⟨.text "2.999.36893488147419103232", p.encode⟩ ∧ a.encode = .ok octets ∧ read octets = .ok a := by
  intro as p
  have has : ObjectIdentifier.HasEncoding as := .mk (by decide) (by decide)
  have hbounds : ∀ n ∈ as, n < Decimal.bound := by decide +kernel
  have hname : "2.999.36893488147419103232" = ObjectIdentifier.dotted (as.map fun n : Nat => (n : Int)) := by
    decide +kernel
  -- no scheme has these arcs, so its parameters may be anything
  have hform : Registry.parameterForm .cipher "2.999.36893488147419103232" = .any := by decide +kernel
  have hlength : (ObjectIdentifier.element (ObjectIdentifier.contentsOf as) ++ p.encode).length < Der.lengthBound := by
    decide +kernel
  exact ⟨has, hbounds, hform, by decide +kernel,
    read_encode_of_arcs has hbounds .tuple hname (.inl hform) p hlength⟩

end AlgorithmId

end Shroud
