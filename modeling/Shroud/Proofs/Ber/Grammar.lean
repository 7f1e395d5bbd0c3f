import Shroud.Ber.Element
import Shroud.Proofs.Bytes

/-!
# The grammar of elements

What an element of the basic encoding rules is, said without a reader:

* `Header.Written`: an identifier octet, the octets of the tag number (`NumberOctets`), and those of the
  length (`LengthOctets`), which is definite in any number of octets or indefinite;
* `Element.Nests`: a header with contents. Contents of definite length are any octets of that length;
  contents of indefinite length are elements one after another, none of which looks like the closing zeros,
  and these nest to a limited depth only;
* `Element.WellFormed`: the depth is the one that readers look through.

The readers read exactly this grammar. What `Element.read` gives is the one well-formed element that the
input starts with, and all that stands behind it (`Element.read_eq_some_iff`), so an element never depends on
what follows it. `Element.readAll` gives the well-formed elements that the input consists of
(`Element.readAll_eq_some_iff`).

The proof goes up in the same steps: numbers and lengths, headers, skipping, elements, rows of elements. The one
place that needs thought is the end of indefinite contents: an element that starts with two zeros is these two
zeros (`Element.Nests.eq_closing`), so the search for the end cannot stop inside an element.
-/

namespace Shroud.Ber

/-! ### What the grammar is -/

/-- Groups of seven bits that lead from the number `n` to the number `m`. All of them but the last have the
highest bit set, and a number does not start with a group of zeros that others follow. -/
inductive NumberGroups : (n m : Nat) → Bytes → Prop where
  | last {n : Nat} {b : UInt8} (hlast : b.toNat < 128) : NumberGroups n (n * 128 + b.toNat % 128) [b]
  | more {n m : Nat} {b : UInt8} {bs : Bytes} (hmore : 128 ≤ b.toNat) (hzeros : ¬(n = 0 ∧ b = 0x80))
      (hrest : NumberGroups (n * 128 + b.toNat % 128) m bs) : NumberGroups n m (b :: bs)

/-- The octets of a tag number behind the identifier octet: none for a number below 31. -/
inductive NumberOctets (identifier : UInt8) : (number : Nat) → Bytes → Prop where
  | within (hshort : identifier.toNat % 32 < 31) : NumberOctets identifier (identifier.toNat % 32) []
  | behind {number : Nat} {octets : Bytes} (hlong : identifier.toNat % 32 = 31)
      (hgroups : NumberGroups 0 number octets) (hnumber : 31 ≤ number) : NumberOctets identifier number octets

/-- **A definite length**: in one octet, or as digits in base 256 behind the octet that counts them. The digits may
start with zeros, as many as can be counted. -/
inductive DefiniteLength : (n : Nat) → Bytes → Prop where
  | short {n : Nat} (hshort : n < 128) : DefiniteLength n [UInt8.ofNat n]
  | long {digits : Bytes} (hpos : 0 < digits.length) (hcount : digits.length < 128) :
      DefiniteLength digits.toNat (UInt8.ofNat (128 + digits.length) :: digits)

/-- A length, which is none when it is indefinite. -/
inductive LengthOctets : (length : Option Nat) → Bytes → Prop where
  | definite {n : Nat} {octets : Bytes} (h : DefiniteLength n octets) : LengthOctets (some n) octets
  | indefinite : LengthOctets none [0x80]

/-- **A header as its octets tell it.** Only constructed elements have an indefinite length. -/
inductive Header.Written : Header → Prop where
  | mk {identifier : UInt8} {number : Nat} {numberOctets : Bytes} {length : Option Nat} {lengthOctets : Bytes}
      (hnumber : NumberOctets identifier number numberOctets) (hlength : LengthOctets length lengthOctets)
      (hindefinite : length = none → identifier.toNat / 32 % 2 = 1) :
      Header.Written
        { tagClass := TagClass.ofOctet identifier
          constructed := identifier.toNat / 32 % 2 == 1
          number := number
          length := length
          octets := identifier :: (numberOctets ++ lengthOctets) }

/-- **An element with at most `depth` levels**, of which it is the first. Contents of definite length are not
looked into. -/
inductive Element.Nests : (depth : Nat) → Element → Prop where
  | definite {depth : Nat} {e : Element} (hheader : e.header.Written)
      (hlength : e.header.length = some e.contents.length) : Nests (depth + 1) e
  | indefinite {depth : Nat} {header : Header} {items : List Element} (hheader : header.Written)
      (hlength : header.length = none) (hitems : ∀ item ∈ items, Nests depth item)
      (hopen : ∀ item ∈ items, item.octets ≠ [0, 0]) :
      Nests (depth + 1) ⟨header, items.flatMap Element.octets⟩

/-- **An element of the grammar.** -/
def Element.WellFormed (e : Element) : Prop :=
  e.Nests (depthLimit + 1)

/-! ### Numbers and lengths -/

/-- A long tag number is read by the grammar. -/
theorem readLongNumber_eq_some_iff {n m : Nat} {bs octets rest : Bytes} :
    readLongNumber n bs = some (m, octets, rest) ↔ NumberGroups n m octets ∧ bs = octets ++ rest := by
  -- along the input one way, along the groups the other; the number read so far changes with each
  constructor
  · intro h
    induction bs generalizing n octets with
    | nil => exact absurd h (by simp [readLongNumber])
    | cons b bs ih =>
      rw [readLongNumber] at h
      split at h
      · exact absurd h (by simp)
      · next hzeros =>
        split at h
        · next hlast =>
          simp only [Option.some.injEq, Prod.mk.injEq] at h
          obtain ⟨rfl, rfl, rfl⟩ := h
          exact ⟨.last hlast, rfl⟩
        · next hmore =>
          obtain ⟨⟨_, octets', _⟩, hread, heq⟩ := Option.map_eq_some_iff.mp h
          simp only [Prod.mk.injEq] at heq
          obtain ⟨rfl, rfl, rfl⟩ := heq
          obtain ⟨hgroups, rfl⟩ := ih hread
          exact ⟨.more (by omega) hzeros hgroups, rfl⟩
  · rintro ⟨hgroups, rfl⟩
    induction hgroups with
    | @last n b hlast =>
      -- a group of zeros that is the last one is not refused
      have hzeros : ¬(n = 0 ∧ b = 0x80) := by
        rintro ⟨-, rfl⟩
        exact absurd hlast (by decide)
      rw [List.singleton_append, readLongNumber, if_neg hzeros]
      simp only [if_pos hlast]
    | more hmore hzeros _ ih =>
      rw [List.cons_append, readLongNumber, if_neg hzeros]
      simp only [if_neg (Nat.not_lt.mpr hmore), ih, Option.map_some]

/-- Tag numbers are read by the grammar. -/
theorem readNumber_eq_some_iff {identifier : UInt8} {number : Nat} {bs octets rest : Bytes} :
    readNumber identifier bs = some (number, octets, rest)
      ↔ NumberOctets identifier number octets ∧ bs = octets ++ rest := by
  unfold readNumber
  constructor
  · intro h
    dsimp only at h
    split at h
    · next hshort =>
      simp only [Option.some.injEq, Prod.mk.injEq] at h
      obtain ⟨rfl, rfl, rfl⟩ := h
      exact ⟨.within hshort, rfl⟩
    · next hlong =>
      split at h
      -- the five low bits are all set, so the number stands in the octets behind
      · next hread =>
        split at h
        · exact absurd h (by simp)
        · next hnumber =>
          simp only [Option.some.injEq, Prod.mk.injEq] at h
          obtain ⟨rfl, rfl, rfl⟩ := h
          obtain ⟨hgroups, rfl⟩ := readLongNumber_eq_some_iff.mp hread
          exact ⟨.behind (by omega) hgroups (Nat.not_lt.mp hnumber), rfl⟩
      · exact absurd h (by simp)
  · rintro ⟨hnumber, rfl⟩
    cases hnumber with
    | within hshort => simp [hshort]
    | behind hlong hgroups hnumber =>
      have hread : readLongNumber 0 (octets ++ rest) = some (number, octets, rest) :=
        readLongNumber_eq_some_iff.mpr ⟨hgroups, rfl⟩
      simp only [hread]
      rw [if_neg (by omega), if_neg (by omega)]

/-- Lengths are read by the grammar, digits with leading zeros included. -/
theorem readLength_eq_some_iff {length : Option Nat} {bs octets rest : Bytes} :
    readLength bs = some (length, octets, rest) ↔ LengthOctets length octets ∧ bs = octets ++ rest := by
  constructor
  · intro h
    cases bs with
    | nil => exact absurd h (by simp [readLength])
    | cons b bs =>
      have hb := b.toNat_lt
      simp only [readLength] at h
      split at h
      · next hshort =>
        simp only [Option.some.injEq, Prod.mk.injEq] at h
        obtain ⟨rfl, rfl, rfl⟩ := h
        have hlength := DefiniteLength.short hshort
        rw [UInt8.ofNat_toNat] at hlength
        exact ⟨.definite hlength, rfl⟩
      · next hlong =>
        -- what the first octet says beyond 128 is the number of the others
        have hoctet : b = UInt8.ofNat (128 + (b.toNat - 128)) := by
          rw [Nat.add_sub_cancel' (by omega), UInt8.ofNat_toNat]
        split at h
        · next hnone =>
          simp only [Option.some.injEq, Prod.mk.injEq] at h
          obtain ⟨rfl, rfl, rfl⟩ := h
          rw [hnone] at hoctet
          exact ⟨hoctet ▸ .indefinite, rfl⟩
        · next hsome =>
          split at h
          · exact absurd h (by simp)
          · next hfits =>
            simp only [Option.some.injEq, Prod.mk.injEq] at h
            obtain ⟨rfl, rfl, rfl⟩ := h
            -- the input is long enough, so the digits that were taken are as many as were announced
            have hcount : (bs.take (b.toNat - 128)).length = b.toNat - 128 := by
              rw [List.length_take]
              omega
            have hlength : DefiniteLength (Bytes.toNat (bs.take (b.toNat - 128)))
                (UInt8.ofNat (128 + (bs.take (b.toNat - 128)).length) :: bs.take (b.toNat - 128)) :=
              .long (by omega) (by omega)
            rw [hcount, ← hoctet] at hlength
            exact ⟨.definite hlength, by rw [List.cons_append, List.take_append_drop]⟩
  · rintro ⟨hlength, rfl⟩
    cases hlength with
    | indefinite => simp [readLength]
    | @definite n _ hlength =>
      cases hlength with
      | short hshort =>
        have hoctet : (UInt8.ofNat n).toNat = n :=
          UInt8.toNat_ofNat_of_lt' (Nat.lt_trans hshort (by decide))
        simp only [readLength, List.singleton_append, hoctet, if_pos hshort]
      | @long digits hpos hcount =>
        -- fewer than 128 digits leave the first octet within its eight bits
        have hoctet : (UInt8.ofNat (128 + digits.length)).toNat = 128 + digits.length :=
          UInt8.toNat_ofNat_of_lt' (by change _ < 256; omega)
        have hdigits : 128 + digits.length - 128 = digits.length := by omega
        simp only [readLength, List.cons_append, hoctet, hdigits]
        rw [if_neg (by omega), if_neg (by omega), if_neg (by rw [List.length_append]; omega),
          List.take_left, List.drop_left]

/-! ### Headers -/

/-- **Headers are read by the grammar.** -/
theorem Header.read_eq_some_iff {bs rest : Bytes} {header : Header} :
    Header.read bs = some (header, rest) ↔ header.Written ∧ bs = header.octets ++ rest := by
  constructor
  · intro h
    cases bs with
    | nil => exact absurd h (by simp [Header.read])
    | cons identifier bs =>
      rw [Header.read] at h
      split at h
      · exact absurd h (by simp)
      · next number numberOctets behind hnumber =>
        split at h
        · exact absurd h (by simp)
        · next length lengthOctets rest' hlength =>
          dsimp only at h
          split at h
          · exact absurd h (by simp)
          · next hindefinite =>
            simp only [Option.some.injEq, Prod.mk.injEq] at h
            obtain ⟨rfl, rfl⟩ := h
            obtain ⟨hnumberOctets, rfl⟩ := readNumber_eq_some_iff.mp hnumber
            obtain ⟨hlengthOctets, rfl⟩ := readLength_eq_some_iff.mp hlength
            refine ⟨.mk hnumberOctets hlengthOctets fun hnone => ?_, by simp⟩
            simpa [hnone] using hindefinite
  · rintro ⟨hwritten, rfl⟩
    cases hwritten with
    | @mk identifier number numberOctets length lengthOctets hnumber hlength hindefinite =>
      have hreadNumber : readNumber identifier (numberOctets ++ (lengthOctets ++ rest))
          = some (number, numberOctets, lengthOctets ++ rest) := readNumber_eq_some_iff.mpr ⟨hnumber, rfl⟩
      have hreadLength : readLength (lengthOctets ++ rest) = some (length, lengthOctets, rest) :=
        readLength_eq_some_iff.mpr ⟨hlength, rfl⟩
      -- an indefinite length is told for constructed elements only
      have hallowed : (length.isNone && !(identifier.toNat / 32 % 2 == 1)) = false := by
        cases length with
        | none => simp [hindefinite rfl]
        | some n => rfl
      simp only [List.cons_append, List.append_assoc, Header.read, hreadNumber, hreadLength, hallowed,
        Bool.false_eq_true, if_false]

/-- A header has an octet at least. -/
theorem Header.Written.octets_ne_nil {header : Header} (h : header.Written) : header.octets ≠ [] := by
  cases h
  exact List.cons_ne_nil _ _

/-- A header that starts with two zeros consists of them: the first gives the number, the second says that there are
no contents. -/
theorem Header.Written.of_zeros {header : Header} (h : header.Written) {bs rest : Bytes}
    (hzeros : header.octets ++ bs = 0 :: 0 :: rest) :
    header.octets = [0, 0] ∧ header.number = 0 ∧ header.length = some 0 := by
  cases h with
  | @mk identifier number numberOctets length lengthOctets hnumber hlength hindefinite =>
    simp only [List.cons_append, List.append_assoc, List.cons.injEq] at hzeros
    obtain ⟨rfl, hzeros⟩ := hzeros
    cases hnumber with
    | behind hlong _ _ =>
      -- an identifier of zero has room for its number
      exact absurd hlong (by decide)
    | within _ =>
      rw [List.nil_append] at hzeros
      cases hlength with
      | indefinite => exact absurd (hindefinite rfl) (by decide)
      | @definite n _ hlength =>
        cases hlength with
        | short hshort =>
          -- one octet tells the length, and it is zero
          have hzero : UInt8.ofNat n = 0 := (List.cons.inj hzeros).1
          have hn := congrArg UInt8.toNat hzero
          rw [UInt8.toNat_ofNat_of_lt' (Nat.lt_trans hshort (by decide))] at hn
          rw [hzero]
          exact ⟨rfl, rfl, congrArg some hn⟩
        | @long digits hpos hcount =>
          -- an octet that counts digits has its highest bit set
          have hcounted : UInt8.ofNat (128 + digits.length) = 0 := (List.cons.inj hzeros).1
          have hn := congrArg UInt8.toNat hcounted
          rw [UInt8.toNat_ofNat_of_lt' (by change _ < 256; omega)] at hn
          exact absurd hn (by simp)

/-! ### The end of indefinite contents -/

theorem skipToEnd_closing (skip : Bytes → Option Bytes) (fuel : Nat) (rest : Bytes) :
    skipToEnd skip fuel (0 :: 0 :: rest) = some rest := by
  cases fuel <;> rfl

/-- Where the closing zeros do not stand, one element is skipped first. -/
theorem skipToEnd_of_open {skip : Bytes → Option Bytes} {fuel : Nat} {bs : Bytes}
    (hopen : ∀ rest, bs ≠ 0 :: 0 :: rest) :
    skipToEnd skip (fuel + 1) bs = (skip bs).bind (skipToEnd skip fuel) := by
  rw [skipToEnd]
  · cases skip bs <;> rfl
  · exact hopen

namespace Element

variable {depth : Nat} {e : Element} {bs rest : Bytes}

theorem octets_of_definite {n : Nat} (h : e.header.length = some n) :
    e.octets = e.header.octets ++ e.contents := by
  simp [octets, trailer, h]

theorem octets_of_indefinite (h : e.header.length = none) :
    e.octets = e.header.octets ++ (e.contents ++ [0, 0]) := by
  simp [octets, trailer, h]

/-- The header of an element is one of the grammar. -/
theorem Nests.written (h : e.Nests depth) : e.header.Written := by
  cases h <;> assumption

theorem Nests.octets_ne_nil (h : e.Nests depth) : e.octets ≠ [] := by
  simp [octets, h.written.octets_ne_nil]

/-- **An element that starts with two zeros is the closing one.** -/
theorem Nests.eq_closing (h : e.Nests depth) {rest' : Bytes} (hzeros : e.octets ++ rest = 0 :: 0 :: rest') :
    e.octets = [0, 0] := by
  unfold octets at hzeros
  rw [List.append_assoc, List.append_assoc] at hzeros
  -- its header is the two zeros, and these announce that nothing follows
  obtain ⟨hheader, -, hempty⟩ := h.written.of_zeros hzeros
  cases h with
  | definite _ hlength =>
    rw [hempty, Option.some.injEq] at hlength
    rw [octets_of_definite hempty, hheader, List.eq_nil_of_length_eq_zero hlength.symm]
    rfl
  | indefinite _ hlength _ _ => exact absurd (hempty.symm.trans hlength) (by simp)

/-- The closing zeros have the tag number zero. -/
theorem Nests.number_of_closing (h : e.Nests depth) (hclosing : e.octets = [0, 0]) : e.header.number = 0 := by
  have hzeros : e.header.octets ++ (e.contents ++ e.trailer) = [0, 0] := by
    rw [← hclosing, octets, List.append_assoc]
  exact (h.written.of_zeros hzeros).2.1

/-- **Skipping stops at the closing zeros**, if skipping one element is right. Each element takes at least one octet
of the fuel. -/
theorem skipToEnd_eq_some_iff
    (hskip : ∀ bs rest, skip depth bs = some rest ↔ ∃ e, Nests depth e ∧ bs = e.octets ++ rest)
    {fuel : Nat} (hfuel : bs.length ≤ fuel) :
    skipToEnd (skip depth) fuel bs = some rest
      ↔ ∃ items : List Element, (∀ item ∈ items, item.Nests depth) ∧ (∀ item ∈ items, item.octets ≠ [0, 0])
        ∧ bs = items.flatMap octets ++ 0 :: 0 :: rest := by
  induction fuel generalizing bs with
  | zero =>
    obtain rfl : bs = [] := List.eq_nil_of_length_eq_zero (by omega)
    simp [skipToEnd]
  | succ fuel ih =>
    -- either the closing zeros are here, and there is no element before them, or there is one
    by_cases hclosed : ∃ after, bs = 0 :: 0 :: after
    · obtain ⟨after, rfl⟩ := hclosed
      rw [skipToEnd_closing]
      constructor
      · intro h
        obtain rfl := Option.some.inj h
        exact ⟨[], by simp, by simp, rfl⟩
      · rintro ⟨items, hitems, hopen, heq⟩
        cases items with
        | nil =>
          rw [List.flatMap_nil, List.nil_append] at heq
          simp only [List.cons.injEq, true_and] at heq
          rw [heq]
        | cons item items =>
          -- a first element would start with the zeros, and then be the closing one
          rw [List.flatMap_cons, List.append_assoc] at heq
          have hclosing := (hitems item List.mem_cons_self).eq_closing heq.symm
          exact absurd hclosing (hopen item List.mem_cons_self)
    · rw [skipToEnd_of_open fun after heq => hclosed ⟨after, heq⟩, Option.bind_eq_some_iff]
      constructor
      · rintro ⟨behind, hone, hmany⟩
        obtain ⟨item, hitem, rfl⟩ := (hskip _ _).mp hone
        have hpos := List.length_pos_iff.mpr hitem.octets_ne_nil
        rw [List.length_append] at hfuel
        obtain ⟨items, hitems, hopen, rfl⟩ := (ih (by omega)).mp hmany
        have hitemOpen : item.octets ≠ [0, 0] := by
          intro hclosing
          exact hclosed ⟨_, by rw [hclosing]; rfl⟩
        refine ⟨item :: items, ?_, ?_, by rw [List.flatMap_cons, List.append_assoc]⟩
        · exact List.forall_mem_cons.mpr ⟨hitem, hitems⟩
        · exact List.forall_mem_cons.mpr ⟨hitemOpen, hopen⟩
      · rintro ⟨items, hitems, hopen, rfl⟩
        cases items with
        | nil =>
          -- without elements the zeros would be here
          exact absurd ⟨rest, rfl⟩ hclosed
        | cons item items =>
          obtain ⟨hitem, hitems⟩ := List.forall_mem_cons.mp hitems
          obtain ⟨-, hopen⟩ := List.forall_mem_cons.mp hopen
          have hpos := List.length_pos_iff.mpr hitem.octets_ne_nil
          rw [List.flatMap_cons, List.append_assoc] at hfuel ⊢
          rw [List.length_append] at hfuel
          exact ⟨_, (hskip _ _).mpr ⟨item, hitem, rfl⟩, (ih (by omega)).mpr ⟨items, hitems, hopen, rfl⟩⟩

/-! ### Elements -/

/-- One element and the rest, looking through `depth` levels below it. -/
def readWithin (depth : Nat) (bs : Bytes) : Option (Element × Bytes) :=
  match Header.read bs with
  | none => none
  | some (header, body) =>
    match header.length with
    | some n => if n ≤ body.length then some (⟨header, body.take n⟩, body.drop n) else none
    | none =>
      match skipToEnd (skip depth) body.length body with
      | some rest => some (⟨header, body.take (body.length - rest.length - 2)⟩, rest)
      | none => none

theorem read_eq_readWithin (bs : Bytes) : read bs = readWithin depthLimit bs := rfl

/-- Skipping is reading and leaving the element. -/
theorem skip_succ (depth : Nat) (bs : Bytes) :
    skip (depth + 1) bs = (readWithin depth bs).map Prod.snd := by
  rw [skip, readWithin]
  cases Header.read bs with
  | none => rfl
  | some found =>
    obtain ⟨header, body⟩ := found
    dsimp only
    cases header.length with
    | some n =>
      dsimp only
      split <;> rfl
    | none => cases skipToEnd (skip depth) body.length body <;> rfl

/-- What stands before the closing zeros is found by its length. -/
theorem take_before_closing (contents rest : Bytes) :
    (contents ++ 0 :: 0 :: rest).take ((contents ++ 0 :: 0 :: rest).length - rest.length - 2) = contents := by
  have hlength : (contents ++ 0 :: 0 :: rest).length - rest.length - 2 = contents.length := by
    simp only [List.length_append, List.length_cons]
    omega
  rw [hlength, List.take_left]

/-- Reading follows the grammar, if skipping one element does, one level below. -/
theorem readWithin_eq_some_iff
    (hskip : ∀ bs rest, skip depth bs = some rest ↔ ∃ e, Nests depth e ∧ bs = e.octets ++ rest) :
    readWithin depth bs = some (e, rest) ↔ e.Nests (depth + 1) ∧ bs = e.octets ++ rest := by
  unfold readWithin
  constructor
  · intro h
    split at h
    · exact absurd h (by simp)
    · next header body hheader =>
      obtain ⟨hwritten, rfl⟩ := Header.read_eq_some_iff.mp hheader
      split at h
      · next n hlength =>
        split at h
        · next hfits =>
          simp only [Option.some.injEq, Prod.mk.injEq] at h
          obtain ⟨rfl, rfl⟩ := h
          refine ⟨.definite hwritten ?_, ?_⟩
          · rw [hlength, List.length_take_of_le hfits]
          · rw [octets_of_definite hlength, List.append_assoc, List.take_append_drop]
        · exact absurd h (by simp)
      · next hlength =>
        split at h
        · next behind hskipped =>
          simp only [Option.some.injEq, Prod.mk.injEq] at h
          obtain ⟨rfl, rfl⟩ := h
          -- the contents reach as far as the elements that were skipped
          obtain ⟨items, hitems, hopen, rfl⟩ := (skipToEnd_eq_some_iff hskip (Nat.le_refl _)).mp hskipped
          rw [take_before_closing]
          refine ⟨.indefinite hwritten hlength hitems hopen, ?_⟩
          rw [octets_of_indefinite hlength]
          simp
        · exact absurd h (by simp)
  · rintro ⟨hnests, rfl⟩
    cases hnests with
    | definite hwritten hlength =>
      rw [octets_of_definite hlength, List.append_assoc,
        Header.read_eq_some_iff.mpr ⟨hwritten, rfl⟩]
      simp [hlength]
    | @indefinite _ header items hwritten hlength hitems hopen =>
      have hbody : header.octets ++ (items.flatMap octets ++ [0, 0]) ++ rest
          = header.octets ++ (items.flatMap octets ++ 0 :: 0 :: rest) := by simp
      have hskipped : skipToEnd (skip depth) (items.flatMap octets ++ 0 :: 0 :: rest).length
          (items.flatMap octets ++ 0 :: 0 :: rest) = some rest :=
        (skipToEnd_eq_some_iff hskip (Nat.le_refl _)).mpr ⟨items, hitems, hopen, rfl⟩
      rw [octets_of_indefinite hlength, hbody, Header.read_eq_some_iff.mpr ⟨hwritten, rfl⟩]
      simp only [hlength, hskipped, take_before_closing]

/-- **Skipping follows the grammar**, at every depth. -/
theorem skip_eq_some_iff (depth : Nat) (bs rest : Bytes) :
    skip depth bs = some rest ↔ ∃ e, Nests depth e ∧ bs = e.octets ++ rest := by
  induction depth generalizing bs rest with
  | zero =>
    -- neither is anything skipped at this depth, nor does any element nest in it
    simp only [skip, reduceCtorEq, false_iff]
    rintro ⟨e, hnests, -⟩
    cases hnests
  | succ depth ih =>
    rw [skip_succ, Option.map_eq_some_iff]
    constructor
    · rintro ⟨⟨e, _⟩, hread, rfl⟩
      exact ⟨e, (readWithin_eq_some_iff ih).mp hread⟩
    · rintro ⟨e, he⟩
      exact ⟨(e, rest), (readWithin_eq_some_iff ih).mpr he, rfl⟩

/-- **Elements are read by the grammar.** What is read is the one well-formed element at the start of the input,
whatever stands behind it. -/
theorem read_eq_some_iff : read bs = some (e, rest) ↔ e.WellFormed ∧ bs = e.octets ++ rest := by
  rw [read_eq_readWithin]
  exact readWithin_eq_some_iff (skip_eq_some_iff depthLimit)

theorem WellFormed.octets_ne_nil (h : e.WellFormed) : e.octets ≠ [] :=
  Nests.octets_ne_nil h

/-- **An element is read from its octets**, whatever comes behind them. -/
theorem WellFormed.read_octets_append (h : e.WellFormed) (rest : Bytes) :
    read (e.octets ++ rest) = some (e, rest) :=
  read_eq_some_iff.mpr ⟨h, rfl⟩

theorem WellFormed.read_octets (h : e.WellFormed) : read e.octets = some (e, []) :=
  read_eq_some_iff.mpr ⟨h, (List.append_nil _).symm⟩

/-- Elements without octets are no elements. -/
theorem flatMap_octets_eq_nil_iff {es : List Element} (h : ∀ e ∈ es, e.WellFormed) :
    es.flatMap octets = [] ↔ es = [] := by
  cases es with
  | nil => simp
  | cons e es => simp [(h e List.mem_cons_self).octets_ne_nil]

theorem readMany_nil_eq_some_iff {fuel : Nat} {es : List Element} :
    readMany fuel [] = some es ↔ (∀ e ∈ es, e.WellFormed) ∧ [] = es.flatMap octets := by
  have hread : readMany fuel [] = some [] := by cases fuel <;> rfl
  rw [hread, Option.some.injEq]
  constructor
  · rintro rfl
    simp
  · rintro ⟨hes, hnil⟩
    exact ((flatMap_octets_eq_nil_iff hes).mp hnil.symm).symm

/-- Some octets are read as one element and those behind it. -/
theorem readMany_of_ne_nil (fuel : Nat) (h : bs ≠ []) :
    readMany (fuel + 1) bs = (read bs).bind fun found => (readMany fuel found.2).map (found.1 :: ·) := by
  rw [readMany]
  · cases read bs <;> rfl
  · exact h

/-- **Rows of elements are read by the grammar.** -/
theorem readAll_eq_some_iff {es : List Element} :
    readAll bs = some es ↔ (∀ e ∈ es, e.WellFormed) ∧ bs = es.flatMap octets := by
  -- an element is not empty, so there are no more of them than octets
  suffices hfuel : ∀ fuel, bs.length ≤ fuel →
      (readMany fuel bs = some es ↔ (∀ e ∈ es, e.WellFormed) ∧ bs = es.flatMap octets) from
    hfuel _ (Nat.le_refl _)
  intro fuel hfuel
  induction fuel generalizing bs es with
  | zero =>
    obtain rfl : bs = [] := List.eq_nil_of_length_eq_zero (by omega)
    exact readMany_nil_eq_some_iff
  | succ fuel ih =>
    by_cases hbs : bs = []
    · subst hbs
      exact readMany_nil_eq_some_iff
    · rw [readMany_of_ne_nil fuel hbs, Option.bind_eq_some_iff]
      constructor
      · rintro ⟨⟨e, rest⟩, hread, hmany⟩
        obtain ⟨hwell, rfl⟩ := read_eq_some_iff.mp hread
        have hpos := List.length_pos_iff.mpr hwell.octets_ne_nil
        rw [List.length_append] at hfuel
        obtain ⟨es, hrest, rfl⟩ := Option.map_eq_some_iff.mp hmany
        dsimp only at hrest
        obtain ⟨hes, rfl⟩ := (ih (by omega)).mp hrest
        exact ⟨List.forall_mem_cons.mpr ⟨hwell, hes⟩, List.flatMap_cons.symm⟩
      · rintro ⟨hes, rfl⟩
        cases es with
        | nil => exact absurd rfl hbs
        | cons e es =>
          obtain ⟨hwell, hes⟩ := List.forall_mem_cons.mp hes
          have hpos := List.length_pos_iff.mpr hwell.octets_ne_nil
          rw [List.flatMap_cons] at hfuel ⊢
          rw [List.length_append] at hfuel
          have hrest : readMany fuel (es.flatMap octets) = some es := (ih (by omega)).mpr ⟨hes, rfl⟩
          refine ⟨(e, es.flatMap octets), read_eq_some_iff.mpr ⟨hwell, rfl⟩, ?_⟩
          rw [hrest, Option.map_some]

end Element

end Shroud.Ber
