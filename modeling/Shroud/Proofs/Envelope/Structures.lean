import Shroud.Proofs.Ber.Forms
import Shroud.Proofs.Envelope

/-!
# One envelope in two structures

An envelope is found in encrypted private key information and in encrypted content information. The two put the same
two parts in different places: the ciphertext is an octet string in one, and stands under a context tag in the other,
behind a content type that nobody looks at. They are also read in different orders, so that a refusal could come from
different parts.

It does not, because the ciphertext is never refused: every form of a string is read as what it spells
(`Ber.StringForm.exists_element`). So both readers are the reader of identifiers with the ciphertext put beside it
(`Envelope.ofPrivateKeyInfo_of_fields`, `Envelope.ofContentInfo_of_fields`), and the two agree on every element that
stands in the place of the identifier, whether it is one or not (`Envelope.ofContentInfo_agrees`).
-/

namespace Shroud

open Ber

namespace Envelope

variable {whole algorithm string contentType content : Element} {more : List Element} {data : Bytes}

/-- **The forms of ciphertext in encrypted content information**: under the context tag zero, in one piece or in
chunks. -/
def ContentForm (data octets : Bytes) : Prop :=
  StringForm 0x80 0xa0 data octets

/-- The content is an element under its context tag. -/
theorem ContentForm.exists_element {octets : Bytes} (h : ContentForm data octets) :
    ∃ e : Element, e.octets = octets ∧ e.WellFormed ∧ (e.header.tagClass = .context ∧ e.header.number = 0)
      ∧ e.Spells 4 data := by
  have hpair : TagPair 0x80 0xa0 := by constructor <;> decide
  obtain ⟨e, hoctets, hnests, hclass, hnumber, hspells⟩ := StringForm.exists_element hpair h
  exact ⟨e, hoctets, hnests 9, ⟨hclass, hnumber⟩, hspells⟩

/-- Reading private key information is reading the identifier in it. -/
theorem ofPrivateKeyInfo_of_fields (hwhole : whole.WellFormed)
    (hfields : whole.IsSequence (algorithm :: string :: more)) (hstring : string.IsOctetString data) (rest : Bytes) :
    ofPrivateKeyInfo (whole.octets ++ rest) = (AlgorithmId.ofElement algorithm).map fun a => ⟨a, data⟩ := by
  have hread := fields?_eq_some_iff.mpr ⟨whole, rest, rfl, hwhole, hfields⟩
  have hdata := found_eq_ok_iff.mpr (Element.octetString?_eq_some_iff.mpr hstring)
  rw [ofPrivateKeyInfo, hread]
  simp only [hdata]
  cases AlgorithmId.ofElement algorithm with
  | error failure => rfl
  | ok a => rfl

/-- Reading content information is reading the identifier in it, whatever the content type is. -/
theorem ofContentInfo_of_fields (hwhole : whole.WellFormed)
    (hfields : whole.IsSequence (contentType :: algorithm :: content :: more))
    (htag : content.header.tagClass = .context ∧ content.header.number = 0) (hspells : content.Spells 4 data)
    (rest : Bytes) :
    ofContentInfo (whole.octets ++ rest) = (AlgorithmId.ofElement algorithm).map fun a => ⟨a, data⟩ := by
  have hread := fields?_eq_some_iff.mpr ⟨whole, rest, rfl, hwhole, hfields⟩
  have hdata := found_eq_ok_iff.mpr (Element.implicitOctetString?_eq_some_iff.mpr ⟨htag, hspells⟩)
  -- the content is optional, and here it is
  have hpresent : (some content).filter (fun e => e.header.tagClass = .context ∧ e.header.number = 0)
      = some content := by
    rw [Option.filter_some, if_pos (decide_eq_true htag)]
  rw [ofContentInfo, hread]
  simp only [List.head?_cons, hpresent, hdata]
  cases AlgorithmId.ofElement algorithm with
  | error failure => rfl
  | ok a => rfl

/-- **The two structures agree.** The same element in the place of the identifier, be it one or not, and the same
ciphertext in any form, also in different chunks: then either both readers give the same envelope, which has this
ciphertext, or both fail in the same way. The lengths of the structures are definite, in any form, and it does not
matter what stands behind them. -/
theorem ofContentInfo_agrees (halgorithm : algorithm.WellFormed) (htype : contentType.WellFormed)
    {string content info info' : Bytes} (hstring : OctetStringForm data string) (hcontent : ContentForm data content)
    (hinfo : DefiniteForm 0x30 (algorithm.octets ++ string) info)
    (hinfo' : DefiniteForm 0x30 (contentType.octets ++ algorithm.octets ++ content) info') (rest rest' : Bytes) :
    (∃ a, AlgorithmId.ofElement algorithm = .ok a
        ∧ ofPrivateKeyInfo (info ++ rest) = .ok ⟨a, data⟩ ∧ ofContentInfo (info' ++ rest') = .ok ⟨a, data⟩)
      ∨ ∃ failure, AlgorithmId.ofElement algorithm = .error failure
        ∧ ofPrivateKeyInfo (info ++ rest) = .error failure ∧ ofContentInfo (info' ++ rest') = .error failure := by
  obtain ⟨string, rfl, hstringNests, hdata⟩ := hstring.exists_element
  obtain ⟨content, rfl, hcontentWell, htag, hspells⟩ := hcontent.exists_element
  -- both structures are read up to their octets, and the identifier decides
  have hkey : ofPrivateKeyInfo (info ++ rest) = (AlgorithmId.ofElement algorithm).map fun a => ⟨a, data⟩ := by
    have hwell : ∀ field ∈ [algorithm, string], field.WellFormed := by
      simpa using ⟨halgorithm, hstringNests 9⟩
    have hcontents : algorithm.octets ++ string.octets = [algorithm, string].flatMap Element.octets := by simp
    rw [hcontents] at hinfo
    obtain ⟨whole, rfl, hwhole, hfields⟩ := hinfo.exists_sequence hwell
    exact ofPrivateKeyInfo_of_fields hwhole hfields hdata rest
  have hbag : ofContentInfo (info' ++ rest') = (AlgorithmId.ofElement algorithm).map fun a => ⟨a, data⟩ := by
    have hwell : ∀ field ∈ [contentType, algorithm, content], field.WellFormed := by
      simpa using ⟨htype, halgorithm, hcontentWell⟩
    have hcontents : contentType.octets ++ algorithm.octets ++ content.octets
        = [contentType, algorithm, content].flatMap Element.octets := by simp
    rw [hcontents] at hinfo'
    obtain ⟨whole, rfl, hwhole, hfields⟩ := hinfo'.exists_sequence hwell
    exact ofContentInfo_of_fields hwhole hfields htag hspells rest'
  rw [hkey, hbag]
  cases AlgorithmId.ofElement algorithm with
  | ok a => exact .inl ⟨a, rfl, rfl, rfl⟩
  | error failure => exact .inr ⟨failure, rfl, rfl, rfl⟩

/-- An octet string of three octets with its length in two octets, and the same octets in three chunks under the context
tag, of which the second is empty. Beside an identifier both are read; beside a null element in its place both are
refused, since null is no identifier. -/
theorem ofContentInfo_agrees_chunks :
    let identifier := Element.ofContents 0x30 (ObjectIdentifier.element Scheme.rc2.oidContents)
    let null := Element.ofContents 0x05 []
    let contentType := Element.ofContents 0x06 [0x2a, 0x86, 0x48, 0x86, 0xf7, 0x0d, 0x01, 0x07, 0x01]
    let string : Bytes := [0x04, 0x81, 0x03, 0x01, 0x02, 0x03]
    let content : Bytes := [0xa0, 0x80, 0x04, 0x01, 0x01, 0x04, 0x00, 0x04, 0x02, 0x02, 0x03, 0x00, 0x00]
    let e : Envelope := ⟨⟨.text Scheme.rc2.oid, []⟩, [0x01, 0x02, 0x03]⟩
    (ofPrivateKeyInfo (Der.element 0x30 (identifier.octets ++ string)) = .ok e
        ∧ ofContentInfo (Der.element 0x30 (contentType.octets ++ identifier.octets ++ content)) = .ok e)
      ∧ ∃ failure, ofPrivateKeyInfo (Der.element 0x30 (null.octets ++ string)) = .error failure
        ∧ ofContentInfo (Der.element 0x30 (contentType.octets ++ null.octets ++ content)) = .error failure := by
  intro identifier null contentType string content e
  have hwell : ∀ (tag : UInt8) (contents : Bytes), tag.toNat % 32 < 31 → contents.length < Der.lengthBound →
      (Element.ofContents tag contents).WellFormed :=
    fun tag contents htag hlength => Element.nests_ofContents htag hlength depthLimit
  have hidentifier : identifier.WellFormed := hwell _ _ (by decide) (by decide)
  have hnull : null.WellFormed := hwell _ _ (by decide) (by decide)
  have htype : contentType.WellFormed := hwell _ _ (by decide) (by decide)
  -- the one writes its octets in one piece, the other in three chunks
  have hstring : OctetStringForm [0x01, 0x02, 0x03] string :=
    .whole (@DefiniteForm.mk _ [0x01, 0x02, 0x03] [0x81, 0x03] (@DefiniteLength.long [0x03] (by decide) (by decide)))
  have hcontent : ContentForm [0x01, 0x02, 0x03] content := by
    have hchunks : ∀ c ∈ [([0x01], [0x04, 0x01, 0x01]), ([], [0x04, 0x00]), ([0x02, 0x03], [0x04, 0x02, 0x02, 0x03])],
        DefiniteForm 0x04 c.1 c.2 := by
      simp only [List.forall_mem_cons]
      exact ⟨@DefiniteForm.mk _ [0x01] [0x01] (.short (by decide)), @DefiniteForm.mk _ [] [0x00] (.short (by decide)),
        @DefiniteForm.mk _ [0x02, 0x03] [0x02] (.short (by decide)), by simp⟩
    exact .chunked hchunks rfl
  have hwhole : ∀ contents : Bytes, contents.length < Der.lengthBound →
      DefiniteForm 0x30 contents (Der.element 0x30 contents) :=
    fun contents hlength => .mk (definiteLength_lengthOctets hlength)
  have hread : AlgorithmId.ofElement identifier = .ok e.algorithm :=
    AlgorithmId.ofElement_eq_ok_iff.mpr
      (.bare ⟨Element.sequence?_eq_some_iff.mp rfl, Scheme.rc2.dotted?_oidContents⟩)
  -- a null is no identifier, and both structures fail alike with it
  have hrefused : AlgorithmId.ofElement null = .error (.misuse (.encoding .malformed)) := rfl
  constructor
  · have hagree := ofContentInfo_agrees hidentifier htype hstring hcontent
      (hwhole _ (by decide)) (hwhole _ (by decide)) [] []
    simp only [List.append_nil] at hagree
    rcases hagree with ⟨a, ha, hboth⟩ | ⟨failure, hfailure, -⟩
    · obtain rfl := Except.ok.inj (hread.symm.trans ha)
      exact hboth
    · exact absurd (hread.symm.trans hfailure) (by simp)
  · have hagree := ofContentInfo_agrees hnull htype hstring hcontent
      (hwhole _ (by decide)) (hwhole _ (by decide)) [] []
    simp only [List.append_nil] at hagree
    rcases hagree with ⟨a, ha, -⟩ | ⟨failure, -, hboth⟩
    · exact absurd (hrefused.symm.trans ha) (by simp)
    · exact ⟨failure, hboth⟩

end Envelope

end Shroud
