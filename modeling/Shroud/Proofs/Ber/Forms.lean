import Shroud.Proofs.Ber.Values

/-!
# The forms in which a value is written

The basic encoding rules leave it to the writer how an element is written. This module lists the forms of the
values that parameters are made of, octet by octet:

* `DefiniteForm`: a primitive element, with its length in any definite form;
* `OctetStringForm`: an octet string in one piece, or in any chunks, and `StringForm` the same under another tag;
* `IntegerForm`: an integer that is not negative, with any number of zeros in front (`UnsignedDigits`);
* `SequenceForm`: a sequence of definite or of indefinite length.

Each form is an element of the grammar with that value (`OctetStringForm.exists_element`,
`StringForm.exists_element`, `IntegerForm.exists_element`, `SequenceForm.exists_element`).

The distinguished encoding rules leave one form: the shortest among the lengths, and among the digits of an integer
(`Shortest`). What this library writes is that form (`shortest_definiteForm_iff`, `shortest_unsignedDigits_iff`).
-/

namespace Shroud.Ber

/-! ### Forms -/

/-- **A primitive element in any definite form of its length**, or a sequence whose fields are the contents. -/
inductive DefiniteForm (identifier : UInt8) (contents : Bytes) : Bytes → Prop where
  | mk {length : Bytes} (hlength : DefiniteLength contents.length length) :
      DefiniteForm identifier contents (identifier :: (length ++ contents))

/-- **The forms of an octet string**: in one piece, or of indefinite length in chunks, of which each is in one piece.
There may be no chunks, and they may be empty. -/
inductive OctetStringForm (s : Bytes) : Bytes → Prop where
  | whole {octets : Bytes} (h : DefiniteForm 0x04 s octets) : OctetStringForm s octets
  | chunked {chunks : List (Bytes × Bytes)} (hchunks : ∀ c ∈ chunks, DefiniteForm 0x04 c.1 c.2)
      (hs : chunks.flatMap (·.1) = s) :
      OctetStringForm s (0x24 :: 0x80 :: (chunks.flatMap (·.2) ++ [0, 0]))

/-- **The forms of a string under any tag**, which are those of an octet string: in one piece behind the identifier
octet `whole`, or in chunks behind the identifier octet `cut`. The chunks are octet strings whatever the tag is. -/
inductive StringForm (whole cut : UInt8) (s : Bytes) : Bytes → Prop where
  | whole {octets : Bytes} (h : DefiniteForm whole s octets) : StringForm whole cut s octets
  | chunked {chunks : List (Bytes × Bytes)} (hchunks : ∀ c ∈ chunks, DefiniteForm 0x04 c.1 c.2)
      (hs : chunks.flatMap (·.1) = s) :
      StringForm whole cut s (cut :: 0x80 :: (chunks.flatMap (·.2) ++ [0, 0]))

/-- **The digits of an integer that is not negative**, in base 256 and behind any number of zeros. The highest bit of
the first octet is that of the sign, and clear. -/
structure UnsignedDigits (n : Int) (digits : Bytes) : Prop where
  value : (Bytes.toNat digits : Int) = n
  sign : (digits.headD 0).toNat < 128

/-- **The forms of an integer** that is not negative. -/
inductive IntegerForm (n : Int) : Bytes → Prop where
  | mk {digits octets : Bytes} (hdigits : UnsignedDigits n digits) (h : DefiniteForm 0x02 digits octets) :
      IntegerForm n octets

/-- **The forms of a sequence** with these contents. -/
inductive SequenceForm (contents : Bytes) : Bytes → Prop where
  | definite {octets : Bytes} (h : DefiniteForm 0x30 contents octets) : SequenceForm contents octets
  | indefinite : SequenceForm contents (0x30 :: 0x80 :: (contents ++ [0, 0]))

/-! ### Forms are elements -/

/-- The header of an identifier octet that holds the number, and a length. -/
def Header.ofIdentifier (identifier : UInt8) (length : Option Nat) (lengthOctets : Bytes) : Header where
  tagClass := TagClass.ofOctet identifier
  constructed := identifier.toNat / 32 % 2 == 1
  number := identifier.toNat % 32
  length := length
  octets := identifier :: lengthOctets

/-- A short identifier and a length are a header. -/
theorem Header.written_ofIdentifier {identifier : UInt8} (hshort : identifier.toNat % 32 < 31)
    {length : Option Nat} {lengthOctets : Bytes} (hlength : LengthOctets length lengthOctets)
    (hindefinite : length = none → identifier.toNat / 32 % 2 = 1) :
    (Header.ofIdentifier identifier length lengthOctets).Written :=
  .mk (.within hshort) hlength hindefinite

namespace Element

variable {e : Element} {depth : Nat}

/-- An element with a tag of its own is not the closing one. -/
theorem Nests.ne_closing (h : e.Nests depth) {number : Nat} (htag : e.isUniversal number = true)
    (hnumber : number ≠ 0) : e.octets ≠ [0, 0] := by
  intro hclosing
  obtain ⟨-, heq⟩ := (Bool.and_eq_true _ _).mp htag
  rw [h.number_of_closing hclosing] at heq
  exact hnumber (eq_of_beq heq).symm

end Element

/-- What has a definite form is an element with the contents given. -/
theorem DefiniteForm.exists_element {identifier : UInt8} (hshort : identifier.toNat % 32 < 31)
    {contents octets : Bytes} (h : DefiniteForm identifier contents octets) :
    ∃ lengthOctets,
      (∀ depth, Element.Nests (depth + 1)
        ⟨Header.ofIdentifier identifier (some contents.length) lengthOctets, contents⟩)
      ∧ Element.octets ⟨Header.ofIdentifier identifier (some contents.length) lengthOctets, contents⟩
        = octets := by
  cases h with
  | @mk length hlength =>
    have hwritten := Header.written_ofIdentifier hshort (.definite hlength) (by simp)
    refine ⟨length, fun depth => .definite hwritten rfl, ?_⟩
    rw [Element.octets_of_definite rfl]
    rfl

/-- Chunks are elements one after another. -/
theorem exists_chunks {chunks : List (Bytes × Bytes)} (h : ∀ c ∈ chunks, DefiniteForm 0x04 c.1 c.2) :
    ∃ items : List Element,
      (∀ item ∈ items, (∀ depth, item.Nests (depth + 1)) ∧ item.isUniversal 4 = true
        ∧ item.header.constructed = false)
      ∧ items.flatMap Element.contents = chunks.flatMap (·.1)
      ∧ items.flatMap Element.octets = chunks.flatMap (·.2) := by
  induction chunks with
  | nil => exact ⟨[], by simp, rfl, rfl⟩
  | cons c chunks ih =>
    obtain ⟨hc, hchunks⟩ := List.forall_mem_cons.mp h
    -- each chunk is an element of any depth, so it fits wherever the string stands
    obtain ⟨lengthOctets, hnests, hoctets⟩ := hc.exists_element (by decide)
    obtain ⟨items, hitems, hcontents, hrest⟩ := ih hchunks
    refine ⟨_ :: items, List.forall_mem_cons.mpr ⟨⟨hnests, rfl, rfl⟩, hitems⟩, ?_, ?_⟩
    · rw [List.flatMap_cons, List.flatMap_cons, hcontents]
    · rw [List.flatMap_cons, List.flatMap_cons, hrest, hoctets]

/-- Two identifier octets of one tag, for a string in one piece and for one in chunks. -/
structure TagPair (whole cut : UInt8) : Prop where
  short : whole.toNat % 32 < 31
  number : cut.toNat % 32 = whole.toNat % 32
  tagClass : TagClass.ofOctet cut = TagClass.ofOctet whole
  primitive : whole.toNat / 32 % 2 = 0
  constructed : cut.toNat / 32 % 2 = 1

/-- **A form of a string is an element** with that tag, and spells the string. -/
theorem StringForm.exists_element {whole cut : UInt8} (hpair : TagPair whole cut) {s octets : Bytes}
    (h : StringForm whole cut s octets) :
    ∃ e : Element, e.octets = octets ∧ (∀ depth, e.Nests (depth + 2)) ∧ e.header.tagClass = TagClass.ofOctet whole
      ∧ e.header.number = whole.toNat % 32 ∧ e.Spells 4 s := by
  cases h with
  | whole h =>
    obtain ⟨lengthOctets, hnests, hoctets⟩ := h.exists_element hpair.short
    -- a string in one piece spells its contents
    have hprimitive : (whole.toNat / 32 % 2 == 1) = false := by rw [hpair.primitive]; rfl
    exact ⟨_, hoctets, fun depth => hnests (depth + 1), rfl, rfl, .primitive hprimitive⟩
  | @chunked chunks hchunks hs =>
    -- a string in chunks is closed by two zeros, and no chunk starts with these
    obtain ⟨items, hitems, hcontents, hoctets⟩ := exists_chunks hchunks
    have hshort : cut.toNat % 32 < 31 := by rw [hpair.number]; exact hpair.short
    have hconstructed : (cut.toNat / 32 % 2 == 1) = true := by rw [hpair.constructed]; rfl
    have hheader : (Header.ofIdentifier cut none [0x80]).Written :=
      Header.written_ofIdentifier hshort .indefinite (fun _ => hpair.constructed)
    refine ⟨⟨Header.ofIdentifier cut none [0x80], items.flatMap Element.octets⟩, ?_, ?_, hpair.tagClass,
      hpair.number, ?_⟩
    · rw [Element.octets_of_indefinite rfl, hoctets]
      rfl
    · intro depth
      refine .indefinite hheader rfl (fun item hitem => (hitems item hitem).1 depth) fun item hitem => ?_
      obtain ⟨hnests, htag, -⟩ := hitems item hitem
      exact (hnests depth).ne_closing htag (by decide)
    · -- each chunk is in one piece, so what it spells are its contents
      rw [Element.spells_of_indefinite_iff hconstructed rfl]
      have hfirst : (items.map fun item => (item, item.contents)).map (·.1) = items := by
        rw [List.map_map]
        exact List.map_id items
      refine ⟨items.map fun item => (item, item.contents), ?_, ?_, ?_⟩
      · rw [hfirst]
        exact Element.readAll_eq_some_iff.mpr ⟨fun item hitem => (hitems item hitem).1 depthLimit, rfl⟩
      · rw [List.flatMap_map, hcontents, hs]
      · simp only [List.forall_mem_map]
        intro item hitem
        obtain ⟨-, htag, hprimitive⟩ := hitems item hitem
        exact ⟨htag, .primitive hprimitive⟩

/-- An octet string is a string of its tag. -/
theorem OctetStringForm.stringForm {s octets : Bytes} (h : OctetStringForm s octets) :
    StringForm 0x04 0x24 s octets := by
  cases h with
  | whole h => exact .whole h
  | chunked hchunks hs => exact .chunked hchunks hs

/-- **A form of an octet string is an octet string.** -/
theorem OctetStringForm.exists_element {s octets : Bytes} (h : OctetStringForm s octets) :
    ∃ e : Element, e.octets = octets ∧ (∀ depth, e.Nests (depth + 2)) ∧ e.IsOctetString s := by
  have hpair : TagPair 0x04 0x24 := by constructor <;> decide
  obtain ⟨e, hoctets, hnests, hclass, hnumber, hspells⟩ := h.stringForm.exists_element hpair
  refine ⟨e, hoctets, hnests, ?_, hspells⟩
  rw [Element.isUniversal, hclass, hnumber]
  rfl

/-- Without the highest bit a number is not negative. -/
theorem signedNumber_of_unsigned {digits : Bytes} (h : (digits.headD 0).toNat < 128) :
    Element.signedNumber digits = Bytes.toNat digits := by
  rw [Element.signedNumber, if_neg (Nat.not_le.mpr h)]

/-- **A form of an integer is an integer.** -/
theorem IntegerForm.exists_element {n : Int} {octets : Bytes} (h : IntegerForm n octets) :
    ∃ e : Element, e.octets = octets ∧ (∀ depth, e.Nests (depth + 1)) ∧ e.IsInteger n := by
  cases h with
  | @mk digits _ hdigits h =>
    obtain ⟨lengthOctets, hnests, hoctets⟩ := h.exists_element (by decide)
    refine ⟨_, hoctets, hnests, rfl, rfl, ?_⟩
    rw [← Element.signedNumber_eq_bmod, signedNumber_of_unsigned hdigits.sign, hdigits.value]

/-- **A sequence in any definite form is a sequence**, of any fields. -/
theorem DefiniteForm.exists_sequence {fields : List Element} (hfields : ∀ field ∈ fields, field.WellFormed)
    {octets : Bytes} (h : DefiniteForm 0x30 (fields.flatMap Element.octets) octets) :
    ∃ e : Element, e.octets = octets ∧ e.WellFormed ∧ e.IsSequence fields := by
  obtain ⟨lengthOctets, hnests, hoctets⟩ := h.exists_element (by decide)
  exact ⟨_, hoctets, hnests depthLimit, rfl, rfl, hfields, rfl⟩

/-- **A form of a sequence is a sequence**, of fields that leave it a level. -/
theorem SequenceForm.exists_element {contents octets : Bytes} (h : SequenceForm contents octets)
    {fields : List Element} (hcontents : contents = fields.flatMap Element.octets)
    (hfields : ∀ field ∈ fields, ∀ depth, field.Nests (depth + 2))
    (hopen : ∀ field ∈ fields, field.octets ≠ [0, 0]) :
    ∃ e : Element, e.octets = octets ∧ e.WellFormed ∧ e.IsSequence fields := by
  have hwell : ∀ field ∈ fields, field.WellFormed := fun field hfield => hfields field hfield 9
  subst hcontents
  cases h with
  | definite h => exact h.exists_sequence hwell
  | indefinite =>
    -- the closing zeros stand behind the fields, and no field is taken for them
    have hheader : (Header.ofIdentifier 0x30 none [0x80]).Written :=
      Header.written_ofIdentifier (by decide) .indefinite (fun _ => by decide)
    refine ⟨⟨Header.ofIdentifier 0x30 none [0x80], fields.flatMap Element.octets⟩, ?_, ?_, rfl, rfl, hwell, rfl⟩
    · rw [Element.octets_of_indefinite rfl]
      rfl
    · exact .indefinite hheader rfl (fun field hfield => hfields field hfield 8) hopen

/-! ### The shortest forms -/

/-- **The shortest of the strings with a property.** -/
def Shortest (P : Bytes → Prop) (bs : Bytes) : Prop :=
  P bs ∧ ∀ other, P other → bs.length ≤ other.length

/-- If no other string with the property is as short as `best`, then this is the shortest one. -/
theorem shortest_iff_eq {P : Bytes → Prop} {best : Bytes} (hbest : P best)
    (honly : ∀ other, P other → other.length ≤ best.length → other = best) (bs : Bytes) :
    Shortest P bs ↔ bs = best := by
  constructor
  · rintro ⟨hbs, hshortest⟩
    exact honly bs hbs (hshortest best hbest)
  · rintro rfl
    refine ⟨hbest, fun other hother => ?_⟩
    by_contra hshorter
    rw [honly other hother (by omega)] at hshorter
    exact hshorter (Nat.le_refl _)

/-- Octets of one length that stand for one number are the same. -/
theorem eq_of_toNat_eq {as bs : Bytes} (hlength : as.length = bs.length)
    (hvalue : Bytes.toNat as = Bytes.toNat bs) : as = bs := by
  rw [← Bytes.ofNat_toNat as, ← Bytes.ofNat_toNat bs, hlength, hvalue]

/-- **A length in as few octets as possible is the distinguished one.** -/
theorem DefiniteLength.eq_of_length_le {n : Nat} {octets : Bytes} (h : DefiniteLength n octets)
    (hshort : octets.length ≤ (Der.lengthOctets n).length) : octets = Der.lengthOctets n := by
  cases h with
  | short hn =>
    -- the short form leaves no choice
    rw [Der.lengthOctets, if_pos hn]
  | @long digits hpos hcount =>
    unfold Der.lengthOctets at hshort ⊢
    split at hshort
    · -- where one octet would do, the long form takes at least two
      simp only [List.length_cons, List.length_nil] at hshort
      omega
    · next hlong =>
      -- the number needs all its digits, so there are no zeros in front of them
      have hwidth := widthOf_le (Bytes.toNat_lt digits)
      have hlength : Bytes.widthOf (Bytes.toNat digits) = digits.length := by
        simp only [List.length_cons, Bytes.length_ofNat] at hshort
        omega
      rw [if_neg hlong]
      dsimp only
      rw [hlength, Bytes.ofNat_toNat]

/-- **The shortest element** with these contents is the one that is written. -/
theorem shortest_definiteForm_iff {identifier : UInt8} {contents : Bytes}
    (h : contents.length < Der.lengthBound) (octets : Bytes) :
    Shortest (DefiniteForm identifier contents) octets ↔ octets = Der.element identifier contents := by
  refine shortest_iff_eq (.mk (definiteLength_lengthOctets h)) ?_ octets
  intro other hother hshort
  cases hother with
  | @mk length hlength =>
    have hlengths : length.length ≤ (Der.lengthOctets contents.length).length := by
      simpa [Der.element] using hshort
    rw [hlength.eq_of_length_le hlengths, Der.element]

/-- A number that is not negative has unsigned digits in the distinguished form. -/
theorem unsignedDigits_integerContents {n : Int} (hn : 0 ≤ n) : UnsignedDigits n (Der.integerContents n) := by
  have hvalue := Element.signedNumber_integerContents n
  by_cases hsign : ((Der.integerContents n).headD 0).toNat < 128
  · rw [signedNumber_of_unsigned hsign] at hvalue
    exact ⟨hvalue, hsign⟩
  · -- with the highest bit set it would be negative
    have hlt := Bytes.toNat_lt (Der.integerContents n)
    have hpow : Nat.pow 2 (8 * (Der.integerContents n).length) = 256 ^ (Der.integerContents n).length := by
      change 2 ^ (8 * (Der.integerContents n).length) = 256 ^ (Der.integerContents n).length
      rw [Nat.pow_mul]
    rw [Element.signedNumber, if_pos (Nat.not_lt.mp hsign), hpow] at hvalue
    omega

/-- **No unsigned digits are fewer than the distinguished ones.** -/
theorem UnsignedDigits.length_integerContents_le {n : Int} {digits : Bytes} (h : UnsignedDigits n digits)
    (hpos : 1 ≤ n) : (Der.integerContents n).length ≤ digits.length := by
  obtain ⟨hvalue, hsign⟩ := h
  cases digits with
  | nil =>
    rw [Bytes.toNat_nil] at hvalue
    omega
  | cons b bs =>
    -- the sign takes one binary digit of the first octet
    have htail := Bytes.toNat_lt bs
    have hpow : 2 ^ (7 + 8 * bs.length) = 128 * 256 ^ bs.length := by
      rw [pow_add, Nat.pow_mul]
      rfl
    have hhigh : Bytes.toNat (b :: bs) < 2 ^ (7 + 8 * bs.length) := by
      have hb : b.toNat * 256 ^ bs.length ≤ 127 * 256 ^ bs.length :=
        Nat.mul_le_mul_right _ (by rw [List.headD_cons] at hsign; omega)
      rw [Element.toNat_cons, hpow]
      omega
    have hne : n.toNat ≠ 0 := by omega
    have hlog : n.toNat.log2 < 7 + 8 * bs.length := by
      rw [Nat.log2_lt hne]
      omega
    have hlength : (Der.integerContents n).length = (n.toNat.log2 + 1) / 8 + 1 := by
      simp [Der.integerContents, Der.bitLength, hne, not_lt.mpr (le_trans zero_le_one hpos)]
    rw [hlength, List.length_cons]
    omega

/-- **The shortest digits** of a positive integer are the ones that are written. -/
theorem shortest_unsignedDigits_iff {n : Int} (hpos : 1 ≤ n) (digits : Bytes) :
    Shortest (UnsignedDigits n) digits ↔ digits = Der.integerContents n := by
  have hbest := unsignedDigits_integerContents (le_trans zero_le_one hpos)
  refine shortest_iff_eq hbest ?_ digits
  intro other hother hshort
  -- as short as the shortest, other digits have the same length, and they have the same value
  refine eq_of_toNat_eq (Nat.le_antisymm hshort (hother.length_integerContents_le hpos)) ?_
  exact_mod_cast hother.value.trans hbest.value.symm

end Shroud.Ber
