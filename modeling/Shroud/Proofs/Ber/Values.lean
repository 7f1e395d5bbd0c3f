import Mathlib.Algebra.Order.BigOperators.Group.List
import Shroud.Ber.Primitive
import Shroud.Proofs.Ber.Der
import Shroud.Proofs.Ber.Grammar

/-!
# What elements stand for

The values of elements, said without a reader: the fields of a sequence (`Element.IsSequence`), the octets of an
octet string in one piece or in chunks (`Element.Spells`, `Element.IsOctetString`), and integers in two's complement
(`Element.IsInteger`). The readers give exactly these values (`Element.sequence?_eq_some_iff`,
`Element.octetString?_eq_some_iff`, `Element.integer?_eq_some_iff`), and what is written for a row of elements or for
octets has them as its value (`Element.exists_sequence`, `Element.exists_octetString`).

Chunks may be cut into chunks themselves. The proof for strings is an induction on this nesting: from the reader
along its fuel, to the reader along the derivation of `Element.Spells`. A chunk is shorter than the contents that it
stands in, which is why the fuel is enough.
-/

namespace Shroud.Ber

/-- A partial function has values for all items exactly if there is a row of pairs that it makes. -/
theorem mapM_eq_some_iff {α β : Type} {f : α → Option β} {xs : List α} {ys : List β} :
    xs.mapM f = some ys
      ↔ ∃ pairs : List (α × β), xs = pairs.map (·.1) ∧ ys = pairs.map (·.2) ∧ ∀ p ∈ pairs, f p.1 = some p.2 := by
  induction xs generalizing ys with
  -- the pairs of no items are none
  | nil =>
    simp only [List.mapM_nil, Option.pure_def, Option.some.injEq]
    constructor
    · rintro rfl
      exact ⟨[], rfl, rfl, by simp⟩
    · rintro ⟨pairs, hfst, rfl, -⟩
      rw [List.map_eq_nil_iff.mp hfst.symm, List.map_nil]
  | cons x xs ih =>
    simp only [List.mapM_cons, Option.pure_def, Option.bind_eq_bind, Option.bind_eq_some_iff, Option.some.injEq]
    constructor
    · rintro ⟨y, hy, ys', hys, rfl⟩
      obtain ⟨pairs, rfl, rfl, hpairs⟩ := ih.mp hys
      exact ⟨(x, y) :: pairs, rfl, rfl, List.forall_mem_cons.mpr ⟨hy, hpairs⟩⟩
    · rintro ⟨pairs, hfst, rfl, hpairs⟩
      -- an item more means a pair more, in front of the others
      cases pairs with
      | nil => exact absurd hfst (List.cons_ne_nil _ _)
      | cons pair pairs =>
        obtain ⟨hpair, hpairs⟩ := List.forall_mem_cons.mp hpairs
        obtain ⟨rfl, rfl⟩ := List.cons.inj hfst
        exact ⟨pair.2, hpair, pairs.map (·.2), ih.mpr ⟨pairs, rfl, rfl, hpairs⟩, rfl⟩

/-- Rows that belong together item by item are mapped onto each other. -/
theorem mapM_map_eq_some {α β γ : Type} {f : α → Option β} {u : γ → α} {v : γ → β} {zs : List γ}
    (h : ∀ z ∈ zs, f (u z) = some (v z)) : (zs.map u).mapM f = some (zs.map v) := by
  refine mapM_eq_some_iff.mpr ⟨zs.map fun z => (u z, v z), ?_, ?_, List.forall_mem_map.mpr h⟩
  · rw [List.map_map, Function.comp_def]
  · rw [List.map_map, Function.comp_def]

namespace Element

variable {e : Element}

/-! ### Sequences -/

/-- **A sequence with these fields**: its contents are the fields, one after another, and nothing else. -/
structure IsSequence (e : Element) (fields : List Element) : Prop where
  tag : e.isUniversal 16 = true
  constructed : e.header.constructed = true
  wellFormed : ∀ field ∈ fields, field.WellFormed
  contents : e.contents = fields.flatMap octets

/-- **Sequences are read as they are**: the fields that are read are those that stand there. -/
theorem sequence?_eq_some_iff {fields : List Element} : e.sequence? = some fields ↔ e.IsSequence fields := by
  unfold sequence?
  constructor
  · intro h
    split at h
    -- the tag and the method are checked in one condition
    · next htag =>
      obtain ⟨htag, hconstructed⟩ := (Bool.and_eq_true _ _).mp htag
      obtain ⟨hwell, hcontents⟩ := readAll_eq_some_iff.mp h
      exact ⟨htag, hconstructed, hwell, hcontents⟩
    · exact absurd h (by simp)
  · rintro ⟨htag, hconstructed, hwell, hcontents⟩
    rw [if_pos (by rw [htag, hconstructed]; rfl)]
    exact readAll_eq_some_iff.mpr ⟨hwell, hcontents⟩

/-- **A row of elements is written as a sequence** of them. -/
theorem exists_sequence {fields : List Element} (hfields : ∀ field ∈ fields, field.WellFormed)
    (hlength : (fields.flatMap octets).length < Der.lengthBound) :
    ∃ e : Element, e.WellFormed ∧ e.octets = Der.sequence (fields.map octets) ∧ e.IsSequence fields := by
  refine ⟨ofContents 0x30 (fields.flatMap octets), nests_ofContents (by decide) hlength depthLimit, ?_, ?_⟩
  · rw [octets_ofContents, Der.sequence, List.flatMap_def]
  · exact ⟨rfl, rfl, hfields, rfl⟩

/-! ### Strings -/

/-- **The octets that an element spells**: the contents of a primitive element, or of contents of indefinite length
what the chunks spell, one after another. Each chunk has the universal tag `chunk`. -/
inductive Spells (chunk : Nat) : Element → Bytes → Prop where
  | primitive {e : Element} (hprimitive : e.header.constructed = false) : Spells chunk e e.contents
  | chunked {header : Header} {chunks : List (Element × Bytes)} (hconstructed : header.constructed = true)
      (hlength : header.length = none) (hwell : ∀ c ∈ chunks, c.1.WellFormed)
      (htag : ∀ c ∈ chunks, c.1.isUniversal chunk = true) (hchunks : ∀ c ∈ chunks, Spells chunk c.1 c.2) :
      Spells chunk ⟨header, chunks.flatMap (·.1.octets)⟩ (chunks.flatMap (·.2))

/-- **An octet string** of the octets `s`. -/
structure IsOctetString (e : Element) (s : Bytes) : Prop where
  tag : e.isUniversal 4 = true
  spells : e.Spells 4 s

/-- An element is longer than its contents, by its header at least. -/
theorem length_contents_lt (h : e.WellFormed) : e.contents.length < e.octets.length := by
  have hpos := List.length_pos_iff.mpr (Nests.written h).octets_ne_nil
  simp only [octets, List.length_append]
  omega

/-- An element is no longer than a row in which it stands. -/
theorem length_octets_le_flatMap {item : Element} {items : List Element} (h : item ∈ items) :
    item.octets.length ≤ (items.flatMap octets).length := by
  rw [List.length_flatMap]
  exact List.single_le_sum (fun _ _ => Nat.zero_le _) _ (List.mem_map_of_mem h)

/-- A primitive string is read as its contents. -/
theorem stringOctets_of_primitive (chunk fuel : Nat) (h : e.header.constructed = false) :
    stringOctets chunk fuel e = some e.contents := by
  rw [stringOctets.eq_def]
  simp only [h, Bool.not_false, if_true]

/-- A string in chunks of definite length is not read. -/
theorem stringOctets_of_definite (chunk fuel : Nat) (h : e.header.constructed = true) {n : Nat}
    (hlength : e.header.length = some n) : stringOctets chunk fuel e = none := by
  rw [stringOctets.eq_def]
  simp [h, hlength]

/-- A string in chunks is read chunk by chunk, with less fuel for each. -/
theorem stringOctets_of_indefinite (chunk fuel : Nat) (h : e.header.constructed = true)
    (hlength : e.header.length = none) :
    stringOctets chunk (fuel + 1) e = (readAll e.contents).bind fun chunks =>
      (chunks.mapM fun c : Element => if c.isUniversal chunk then stringOctets chunk fuel c else none).map
        List.flatten := by
  rw [stringOctets.eq_def]
  cases hread : readAll e.contents <;> simp [h, hlength, hread]

/-- A primitive string spells its contents and nothing else. -/
theorem spells_of_primitive_iff {chunk : Nat} {s : Bytes} (h : e.header.constructed = false) :
    e.Spells chunk s ↔ e.contents = s := by
  constructor
  · intro hspells
    cases hspells with
    | primitive _ => rfl
    | chunked hconstructed _ _ _ _ => exact absurd (h.symm.trans hconstructed) (by simp)
  · rintro rfl
    exact .primitive h

/-- Contents of definite length that are no single piece spell nothing. -/
theorem not_spells_of_definite {chunk : Nat} {s : Bytes} (h : e.header.constructed = true) {n : Nat}
    (hlength : e.header.length = some n) : ¬ e.Spells chunk s := by
  intro hspells
  cases hspells with
  | primitive hprimitive => exact absurd (h.symm.trans hprimitive) (by simp)
  | chunked _ hnone _ _ _ => exact absurd (hlength.symm.trans hnone) (by simp)

/-- Chunks spell what each of them spells, one after another. -/
theorem spells_of_indefinite_iff {chunk : Nat} {s : Bytes} (h : e.header.constructed = true)
    (hlength : e.header.length = none) :
    e.Spells chunk s ↔ ∃ chunks : List (Element × Bytes),
      readAll e.contents = some (chunks.map (·.1)) ∧ s = chunks.flatMap (·.2)
        ∧ ∀ c ∈ chunks, c.1.isUniversal chunk = true ∧ c.1.Spells chunk c.2 := by
  constructor
  · intro hspells
    cases hspells with
    | primitive hprimitive => exact absurd (h.symm.trans hprimitive) (by simp)
    -- what the chunks are made of is what is read again
    | @chunked header chunks _ _ hwell htag hchunks =>
      refine ⟨chunks, readAll_eq_some_iff.mpr ⟨List.forall_mem_map.mpr hwell, ?_⟩, rfl, ?_⟩
      · rw [List.flatMap_map]
      · exact fun c hc => ⟨htag c hc, hchunks c hc⟩
  · rintro ⟨chunks, hread, rfl, hchunks⟩
    obtain ⟨header, contents⟩ := e
    obtain ⟨hwell, rfl⟩ := readAll_eq_some_iff.mp hread
    rw [List.flatMap_map]
    exact .chunked h hlength (List.forall_mem_map.mp hwell) (fun c hc => (hchunks c hc).1)
      (fun c hc => (hchunks c hc).2)

/-- **Strings are read as they are spelled.** -/
theorem stringOctets_eq_some_iff {chunk fuel : Nat} {s : Bytes} (hfuel : e.contents.length < fuel) :
    stringOctets chunk fuel e = some s ↔ e.Spells chunk s := by
  -- the fuel goes down by one with each level of chunks, and so does the length at least
  induction fuel generalizing e s with
  | zero => omega
  | succ fuel ih =>
    cases hconstructed : e.header.constructed with
    | false =>
      rw [stringOctets_of_primitive chunk (fuel + 1) hconstructed, spells_of_primitive_iff hconstructed,
        Option.some.injEq]
    | true =>
      cases hlength : e.header.length with
      | some n =>
        -- refused: chunks may only stand in contents of indefinite length
        rw [stringOctets_of_definite chunk (fuel + 1) hconstructed hlength]
        exact iff_of_false (by simp) (not_spells_of_definite hconstructed hlength)
      | none =>
        -- the chunks are shorter than what they stand in
        have hshorter : ∀ chunks : List (Element × Bytes), readAll e.contents = some (chunks.map (·.1)) →
            ∀ c ∈ chunks, c.1.contents.length < fuel := by
          intro chunks hread c hc
          obtain ⟨hwell, hcontents⟩ := readAll_eq_some_iff.mp hread
          have hmem : c.1 ∈ chunks.map (·.1) := List.mem_map_of_mem hc
          have hchunk := length_contents_lt (hwell c.1 hmem)
          have hall := length_octets_le_flatMap hmem
          rw [← hcontents] at hall
          omega
        rw [stringOctets_of_indefinite chunk fuel hconstructed hlength,
          spells_of_indefinite_iff hconstructed hlength, Option.bind_eq_some_iff]
        constructor
        · rintro ⟨_, hread, hvalues⟩
          obtain ⟨_, hmapped, rfl⟩ := Option.map_eq_some_iff.mp hvalues
          obtain ⟨chunks, rfl, rfl, hchunks⟩ := mapM_eq_some_iff.mp hmapped
          refine ⟨chunks, hread, (List.flatMap_def ..).symm, fun c hc => ?_⟩
          have hvalue := hchunks c hc
          split at hvalue
          · next htag => exact ⟨htag, (ih (hshorter chunks hread c hc)).mp hvalue⟩
          · exact absurd hvalue (by simp)
        · rintro ⟨chunks, hread, rfl, hchunks⟩
          refine ⟨chunks.map (·.1), hread, ?_⟩
          rw [Option.map_eq_some_iff]
          refine ⟨chunks.map (·.2), mapM_eq_some_iff.mpr ⟨chunks, rfl, rfl, fun c hc => ?_⟩, ?_⟩
          · obtain ⟨htag, hspells⟩ := hchunks c hc
            rw [if_pos htag]
            exact (ih (hshorter chunks hread c hc)).mpr hspells
          · exact (List.flatMap_def ..).symm

/-- **Octet strings are read as they are spelled**, in one piece or in chunks. -/
theorem octetString?_eq_some_iff {s : Bytes} : e.octetString? = some s ↔ e.IsOctetString s := by
  unfold octetString?
  constructor
  · intro h
    split at h
    · next htag => exact ⟨htag, (stringOctets_eq_some_iff (Nat.lt_succ_self _)).mp h⟩
    · exact absurd h (by simp)
  · rintro ⟨htag, hspells⟩
    rw [if_pos htag]
    exact (stringOctets_eq_some_iff (Nat.lt_succ_self _)).mpr hspells

/-- The same under a context tag, which stands in place of the tag of octet strings. -/
theorem implicitOctetString?_eq_some_iff {number : Nat} {s : Bytes} :
    e.implicitOctetString? number = some s
      ↔ (e.header.tagClass = .context ∧ e.header.number = number) ∧ e.Spells 4 s := by
  unfold implicitOctetString?
  constructor
  · intro h
    split at h
    · next htag => exact ⟨htag, (stringOctets_eq_some_iff (Nat.lt_succ_self _)).mp h⟩
    · exact absurd h (by simp)
  · rintro ⟨htag, hspells⟩
    rw [if_pos htag]
    exact (stringOctets_eq_some_iff (Nat.lt_succ_self _)).mpr hspells

/-- **Octets are written as an octet string** of them. -/
theorem exists_octetString {s : Bytes} (hlength : s.length < Der.lengthBound) :
    ∃ e : Element, e.WellFormed ∧ e.octets = Der.octetString s ∧ e.IsOctetString s :=
  ⟨ofContents 0x04 s, nests_ofContents (by decide) hlength depthLimit, octets_ofContents _ _, rfl, .primitive rfl⟩

/-! ### Integers -/

/-- **An integer** `n` in two's complement: the remainder of least magnitude modulo the numbers that have so many
octets. -/
structure IsInteger (e : Element) (n : Int) : Prop where
  tag : e.isUniversal 2 = true
  primitive : e.header.constructed = false
  value : n = Int.bmod (Bytes.toNat e.contents : Int) (256 ^ e.contents.length)

/-- **Integers are read as they are**, in two's complement of as many octets as there are. -/
theorem integer?_eq_some_iff {n : Int} : e.integer? = some n ↔ e.IsInteger n := by
  unfold integer?
  -- the number that is read is a remainder, as in the definition
  rw [signedNumber_eq_bmod]
  constructor
  · intro h
    split at h
    · next htag =>
      obtain ⟨htag, hprimitive⟩ := (Bool.and_eq_true _ _).mp htag
      exact ⟨htag, by simpa using hprimitive, (Option.some.inj h).symm⟩
    · exact absurd h (by simp)
  · rintro ⟨htag, hprimitive, rfl⟩
    rw [if_pos (by rw [htag, hprimitive]; rfl)]

end Element

end Shroud.Ber
