import Shroud.Proofs.Ber.Forms
import Shroud.Proofs.Parameters.Grammar

/-!
# Every form of the same parameters

Parameters may be written in many ways. A length may take more octets than it needs, and the sequence may have none;
the salt may be in chunks; the count may stand behind zeros. `Parameters.BasicForm` lists these forms, and all of them
decode to the same parameters (`Parameters.decode_of_basicForm`). Encoding these again gives the one distinguished
form (`Parameters.DistinguishedForm`), in which each length and the digits of the count are the shortest ones and the
salt is in one piece.

The first half is a case of the grammar: each form is a sequence of exactly two fields with the right values, so it
encodes the parameters (`Parameters.BasicForm.encoded`). The second half needs that shortest forms are unique.
-/

namespace Shroud

open Ber

namespace Parameters

variable {p : Parameters} {raw : Bytes} {limit : Option Int}

/-- **The forms of parameters** whose count is not negative. -/
inductive BasicForm (p : Parameters) : Bytes → Prop where
  | mk {salt count raw : Bytes} (hsalt : OctetStringForm p.salt salt) (hcount : IntegerForm p.iterations count)
      (hwhole : SequenceForm (salt ++ count) raw) : BasicForm p raw

/-- **The distinguished form of parameters** whose count is not negative: lengths are definite and in the fewest octets,
the count has the fewest digits, and the salt is in one piece. -/
inductive DistinguishedForm (p : Parameters) : Bytes → Prop where
  | mk {salt digits count raw : Bytes} (hsalt : Shortest (DefiniteForm 0x04 p.salt) salt)
      (hdigits : Shortest (UnsignedDigits p.iterations) digits)
      (hcount : Shortest (DefiniteForm 0x02 digits) count)
      (hwhole : Shortest (DefiniteForm 0x30 (salt ++ count)) raw) : DistinguishedForm p raw

/-- Each form encodes the parameters, and nothing stands behind the count. -/
theorem BasicForm.encoded (h : p.BasicForm raw) : p.Encoded [] raw := by
  cases h with
  | mk hsalt hcount hwhole =>
    obtain ⟨salt, rfl, hsaltNests, hsalt⟩ := hsalt.exists_element
    obtain ⟨count, rfl, hcountNests, hcount⟩ := hcount.exists_element
    have hfields : ∀ field ∈ [salt, count], ∀ depth, field.Nests (depth + 2) := by
      intro field hfield depth
      rcases List.mem_pair.mp hfield with rfl | rfl
      · exact hsaltNests depth
      · exact hcountNests (depth + 1)
    -- neither child is taken for the closing zeros
    have hopen : ∀ field ∈ [salt, count], field.octets ≠ [0, 0] := by
      intro field hfield
      rcases List.mem_pair.mp hfield with rfl | rfl
      · exact (hsaltNests 0).ne_closing hsalt.tag (by decide)
      · exact (hcountNests 0).ne_closing hcount.tag (by decide)
    obtain ⟨whole, rfl, hwell, hsequence⟩ := hwhole.exists_element (by simp) hfields hopen
    exact .mk hwell hsequence hsalt hcount

/-- **The distinguished form is the one that is written.** -/
theorem distinguishedForm_iff (hfits : p.Fits) (hpos : 1 ≤ p.iterations) (octets : Bytes) :
    p.DistinguishedForm octets ↔ octets = p.encode := by
  have hsaltForm := @shortest_definiteForm_iff 0x04 p.salt (hfits.items_lt (0x04, _) List.mem_cons_self)
  have hdigitsForm := shortest_unsignedDigits_iff hpos
  have hcountForm := @shortest_definiteForm_iff 0x02 (Der.integerContents p.iterations)
    (hfits.items_lt (0x02, _) (List.mem_cons_of_mem _ List.mem_cons_self))
  have hwholeForm := @shortest_definiteForm_iff 0x30 _ hfits.contents_lt
  rw [encode_eq_element]
  simp only [items, List.flatMap_cons, List.flatMap_nil, List.append_nil] at hwholeForm ⊢
  -- each part is as short as it can be, and there is one shortest form of each
  constructor
  · intro h
    cases h with
    | mk hsalt hdigits hcount hwhole =>
      obtain rfl := (hsaltForm _).mp hsalt
      obtain rfl := (hdigitsForm _).mp hdigits
      obtain rfl := (hcountForm _).mp hcount
      exact (hwholeForm octets).mp hwhole
  · rintro rfl
    exact .mk ((hsaltForm _).mpr rfl) ((hdigitsForm _).mpr rfl) ((hcountForm _).mpr rfl) ((hwholeForm _).mpr rfl)

/-- **All forms of the same parameters decode to them.** Encoded again, they have the one distinguished form. -/
theorem decode_of_basicForm (hpos : 1 ≤ p.iterations) (hlimit : ∀ m ∈ limit, p.iterations ≤ m)
    (hform : p.BasicForm raw) :
    decode raw limit = .ok p ∧ (p.Fits → ∀ octets, p.DistinguishedForm octets ↔ octets = p.encode) := by
  constructor
  · have hread := read?_eq_some_iff.mpr ⟨[], hform.encoded⟩
    rw [decode_of_read?_eq_some hread]
    exact check_eq_ok_iff.mpr ⟨rfl, hpos, hlimit⟩
  · exact fun hfits => distinguishedForm_iff hfits hpos

/-- A salt of three octets in three chunks, of which the second is empty, and a count of seven behind two zeros, in a
sequence of indefinite length. Lengths take one octet, two octets or three. -/
def chunkedForm : Bytes :=
  [0x30, 0x80,
    0x24, 0x80, 0x04, 0x01, 0xff, 0x04, 0x81, 0x00, 0x04, 0x82, 0x00, 0x02, 0x01, 0x02, 0x00, 0x00,
    0x02, 0x82, 0x00, 0x03, 0x00, 0x00, 0x07,
    0x00, 0x00]

theorem basicForm_chunkedForm : BasicForm ⟨[0xff, 0x01, 0x02], 7⟩ chunkedForm := by
  have hfirst : DefiniteForm 0x04 [0xff] [0x04, 0x01, 0xff] :=
    @DefiniteForm.mk _ [0xff] [0x01] (.short (by decide))
  -- lengths may be written with more digits than they need, and chunks may be empty
  have hempty : DefiniteForm 0x04 [] [0x04, 0x81, 0x00] :=
    @DefiniteForm.mk _ [] [0x81, 0x00] (@DefiniteLength.long [0x00] (by decide) (by decide))
  have hlast : DefiniteForm 0x04 [0x01, 0x02] [0x04, 0x82, 0x00, 0x02, 0x01, 0x02] :=
    @DefiniteForm.mk _ [0x01, 0x02] [0x82, 0x00, 0x02]
      (@DefiniteLength.long [0x00, 0x02] (by decide) (by decide))
  have hcount : DefiniteForm 0x02 [0x00, 0x00, 0x07] [0x02, 0x82, 0x00, 0x03, 0x00, 0x00, 0x07] :=
    @DefiniteForm.mk _ [0x00, 0x00, 0x07] [0x82, 0x00, 0x03]
      (@DefiniteLength.long [0x00, 0x03] (by decide) (by decide))
  have hchunks : ∀ c ∈ [([0xff], [0x04, 0x01, 0xff]), ([], [0x04, 0x81, 0x00]),
      ([0x01, 0x02], [0x04, 0x82, 0x00, 0x02, 0x01, 0x02])], DefiniteForm 0x04 c.1 c.2 := by
    simp only [List.forall_mem_cons]
    exact ⟨hfirst, hempty, hlast, by simp⟩
  exact .mk (.chunked hchunks rfl) (.mk ⟨rfl, by decide⟩ hcount) .indefinite

/-- The chunks and the zeros are gone from what is decoded, under a ceiling that is just the count, and from what is
encoded again. -/
theorem decode_of_basicForm_chunkedForm :
    BasicForm ⟨[0xff, 0x01, 0x02], 7⟩ chunkedForm
      ∧ decode chunkedForm (some 7) = .ok ⟨[0xff, 0x01, 0x02], 7⟩
      ∧ DistinguishedForm ⟨[0xff, 0x01, 0x02], 7⟩
        [0x30, 0x08, 0x04, 0x03, 0xff, 0x01, 0x02, 0x02, 0x01, 0x07] := by
  obtain ⟨hdecode, hdistinguished⟩ :=
    decode_of_basicForm (by decide) (by decide : ∀ m ∈ some (7 : Int), 7 ≤ m) basicForm_chunkedForm
  exact ⟨basicForm_chunkedForm, hdecode, (hdistinguished (by decide) _).mpr rfl⟩

end Parameters

end Shroud
