import Shroud.Algorithm.Writing
import Shroud.Proofs.Ber.Sizes
import Shroud.Proofs.Parameters.Grammar
import Shroud.Proofs.Results

/-!
# A salt and a count as they are written

A salt and a count are taken out of a structure in one of two ways (`Form.WrittenAs`): with the octets that they were
read from, or, when the header ends in the octet that marks an indefinite length, in the distinguished encoding of what
they hold. Which of the two it is depends on one octet, and it makes no difference in the end:

* what is written decodes to the same as what was read, under every ceiling (`Form.decode_of_written`);
* what is written is written the same once more (`Form.Settled`, `Form.settled_of_written`).

Both hold because parameters that were written anew are read back. For this their new encoding must have a length, and
it is at most about four times as long as what was read (`Form.length_le_of_written`).
-/

namespace Shroud

open Ber

namespace Parameters

variable {e : Element} {p : Parameters}

theorem read?_octets (h : e.WellFormed) : read? e.octets = ofElement? e := by
  rw [read?, h.read_octets]

/-- **What is encoded anew** is at most about four times as long as it was. -/
theorem length_encode_le (h : ofElement? e = some p) : p.encode.length ≤ 4 * e.contents.length + 10 := by
  obtain ⟨fields, hfields, hp⟩ := Option.bind_eq_some_iff.mp h
  obtain ⟨salt, count, more, rfl, hsalt, hcount⟩ := ofFields?_eq_some_iff.mp hp
  have hsequence := Element.sequence?_eq_some_iff.mp hfields
  -- the values are not longer than their elements, and these stand in the contents side by side
  have hsaltValue : p.salt.length < salt.octets.length :=
    hsalt.spells.length_le.trans_lt (Element.length_contents_lt (hsequence.wellFormed salt (by simp)))
  have hcountValue : (Der.integerContents p.iterations).length ≤ count.octets.length :=
    hcount.length_integerContents_le.trans (Element.length_contents_lt (hsequence.wellFormed count (by simp)))
  have hsides := hsequence.length_add_le
  have hsaltElement := Element.length_element_le 0x04 p.salt
  have hcountElement := Element.length_element_le 0x02 (Der.integerContents p.iterations)
  have hwhole := Element.length_element_le 0x30 (p.items.flatMap fun item => Der.element item.1 item.2)
  rw [← encode_eq_element] at hwhole
  simp only [items, List.flatMap_cons, List.flatMap_nil, List.append_nil, List.length_append] at hwhole
  omega

/-- The element whose octets are the distinguished encoding. -/
def toElement (p : Parameters) : Element :=
  Element.ofContents 0x30 (p.items.flatMap fun item => Der.element item.1 item.2)

/-- The element of parameters has the octets that they are encoded as. -/
theorem octets_toElement (p : Parameters) : p.toElement.octets = p.encode := by
  rw [toElement, Element.octets_ofContents, p.encode_eq_element]

theorem Fits.wellFormed_toElement (h : p.Fits) : p.toElement.WellFormed :=
  Element.nests_ofContents (by decide) h.contents_lt depthLimit

/-- Parameters that fit are read from their own element. -/
theorem Fits.ofElement?_toElement (h : p.Fits) : ofElement? p.toElement = some p := by
  rw [← read?_octets h.wellFormed_toElement, octets_toElement, read?_encode h]

end Parameters

namespace Algorithm

/-- What is missing is malformed. -/
theorem orMalformed_eq_ok_iff {α : Type} {o : Option α} {a : α} : orMalformed o = .ok a ↔ o = some a := by
  cases o with
  | none => simp [orMalformed]
  | some b => simp [orMalformed]

namespace Form

variable {e : Element} {octets : Bytes}

/-- **The ways in which a salt and a count are written.** -/
inductive WrittenAs (e : Element) : Bytes → Prop where
  | read (hmark : e.endsInIndefiniteMark = false) : WrittenAs e e.octets
  | anew {p : Parameters} (hmark : e.endsInIndefiniteMark = true) (hvalue : Parameters.ofElement? e = some p) :
      WrittenAs e p.encode

/-- **The parameters are written as they were read**, or anew from their value. -/
theorem written_eq_ok_iff :
    saltAndCount.written e = .ok octets
      ↔ e.isUniversal 16 = true ∧ e.header.constructed = true ∧ WrittenAs e octets := by
  have hadmits : saltAndCount.admits e = (e.isUniversal 16 && e.header.constructed) := rfl
  -- anew means from the value alone, whatever the octets were
  have hanew : renewed (e.contents.length + 2) saltAndCount e = .ok octets
      ↔ ∃ p, Parameters.ofElement? e = some p ∧ p.encode = octets := by
    simp only [renewed, map_eq_ok_iff, orMalformed_eq_ok_iff]
  unfold written
  rw [hadmits]
  constructor
  · intro h
    split at h
    · exact absurd h (by simp)
    · next htag =>
      obtain ⟨htag, hconstructed⟩ : e.isUniversal 16 = true ∧ e.header.constructed = true := by
        simpa using htag
      refine ⟨htag, hconstructed, ?_⟩
      split at h
      · next hmark =>
        obtain ⟨p, hvalue, rfl⟩ := hanew.mp h
        exact .anew hmark hvalue
      · next hmark =>
        obtain rfl : e.octets = octets := Except.ok.inj h
        exact .read (by simpa using hmark)
  · rintro ⟨htag, hconstructed, hwritten⟩
    rw [htag, hconstructed, if_neg (by simp)]
    cases hwritten with
    | read hmark => rw [if_neg (by simp [hmark])]
    | anew hmark hvalue =>
      rw [if_pos hmark]
      exact hanew.mpr ⟨_, hvalue, rfl⟩

/-- Writing them anew does not make them much longer. -/
theorem length_le_of_written (h : saltAndCount.written e = .ok octets) : octets.length ≤ 4 * e.octets.length + 10 := by
  obtain ⟨-, -, hwritten⟩ := written_eq_ok_iff.mp h
  cases hwritten with
  | read _ => omega
  -- the salt is part of the contents, and the count was read from them as well
  | anew _ hvalue =>
    have hlength := Parameters.length_encode_le hvalue
    have hcontents : e.contents.length ≤ e.octets.length := by
      simp only [Element.octets, List.length_append]
      omega
    omega

/-- **What is written decodes to what was read**, and is refused if that is. -/
theorem decode_of_written (hwell : e.WellFormed) (h : saltAndCount.written e = .ok octets)
    (hlength : octets.length < Der.lengthBound) (limit : Option Int) :
    Parameters.decode octets limit = Parameters.decode e.octets limit := by
  obtain ⟨-, -, hwritten⟩ := written_eq_ok_iff.mp h
  cases hwritten with
  | read _ => rfl
  | @anew p _ hvalue =>
    -- both hold the same parameters, so only the check of the count is left
    have hread : Parameters.read? e.octets = some p := by rw [Parameters.read?_octets hwell, hvalue]
    rw [Parameters.decode_encode hlength, Parameters.decode_of_read?_eq_some hread]

/-- **Octets that are written as they are**: the encoding of one element, whose salt and count are written with the
same octets. -/
def Settled (octets : Bytes) : Prop :=
  ∃ e : Element, e.WellFormed ∧ e.octets = octets ∧ saltAndCount.written e = .ok octets

/-- **The distinguished encoding is written as it is**, also where the last octet of its header is the mark of an
indefinite length. -/
theorem written_toElement {p : Parameters} (hfits : p.Fits) : saltAndCount.written p.toElement = .ok p.encode := by
  refine written_eq_ok_iff.mpr ⟨rfl, rfl, ?_⟩
  cases hmark : p.toElement.endsInIndefiniteMark with
  | false => exact p.octets_toElement ▸ .read hmark
  | true => exact .anew hmark hfits.ofElement?_toElement

/-- Parameters that may be anything are not looked into, so of any length they are written as they are. -/
theorem any_written_toElement (p : Parameters) : any.written p.toElement = .ok p.encode := by
  have hadmits : any.admits p.toElement = true := rfl
  have hanew : p.toElement.endsInIndefiniteMark = true → p.toElement.renewed = .ok p.toElement.octets := by
    intro hmark
    unfold Element.renewed
    rw [hmark, Parameters.toElement, Element.octets_ofContents]
    rfl
  rw [written, hadmits, ← p.octets_toElement]
  cases hmark : p.toElement.endsInIndefiniteMark with
  | false => rfl
  | true => exact hanew hmark

/-- **Octets written from parameters are settled**: reading and writing changes them no more. -/
theorem settled_encode {p : Parameters} (hfits : p.Fits) : Settled p.encode :=
  ⟨p.toElement, hfits.wellFormed_toElement, p.octets_toElement, written_toElement hfits⟩

/-- **What was written is settled.** -/
theorem settled_of_written (hwell : e.WellFormed) (h : saltAndCount.written e = .ok octets)
    (hlength : octets.length < Der.lengthBound) : Settled octets := by
  obtain ⟨-, -, hwritten⟩ := written_eq_ok_iff.mp h
  cases hwritten with
  | read _ => exact ⟨e, hwell, rfl, h⟩
  | anew _ _ => exact settled_encode hlength

end Form

end Algorithm

end Shroud
