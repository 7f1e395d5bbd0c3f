import Mathlib.Logic.Function.Basic
import Shroud.Ber.ObjectIdentifier
import Shroud.Proofs.Ber.Values
import Shroud.Proofs.Decimal.Integer

/-!
# Object identifiers are read back

Arcs have one usual text, in which dots stand between them (`ObjectIdentifier.dotted`). Different arcs have different
texts, negative ones and those of any size included (`ObjectIdentifier.dotted_injective`).

The octets of an object identifier hold numbers in groups of seven bits. A number is read back from its groups whatever
stands behind them (`groups_arcOctets_append`), so numbers are read back from their groups in a row. Arcs that can be
encoded (`ObjectIdentifier.HasEncoding`) are such numbers, except that the first two are merged into one, which is
undone since the second is small below a first arc of zero or one. So the text of such arcs gives octets
(`ObjectIdentifier.contents?_dotted`), and these give the text back (`ObjectIdentifier.dotted?_contentsOf`), unless an
arc has more digits than are ever written.
-/

namespace Shroud.Ber.ObjectIdentifier

/-! ### Texts of arcs -/

/-- **The usual text of arcs**, with dots between them. -/
def dotted (arcs : List Int) : String :=
  ".".intercalate (arcs.map Decimal.ofInt)

/-- Arcs are written one behind the other, with dots between them. -/
theorem toList_dotted (arcs : List Int) :
    (dotted arcs).toList = ['.'].intercalate (arcs.map fun n => (Decimal.ofInt n).toList) := by
  rw [dotted, String.toList_intercalate, List.map_map]
  rfl

/-- The text of arcs consists of dots and of symbols of numbers. -/
theorem isSymbol_of_mem_dotted {arcs : List Int} {c : Char} (h : c ∈ (dotted arcs).toList) :
    c = '.' ∨ Decimal.IsSymbol c := by
  rw [toList_dotted] at h
  induction arcs with
  | nil => exact absurd h (by simp)
  | cons first rest ih =>
    cases rest with
    | nil =>
      rw [List.map_cons, List.map_nil, List.intercalate_singleton] at h
      exact .inr (Decimal.isSymbol_of_mem_ofInt h)
    | cons second rest =>
      rw [List.map_cons, List.map_cons, List.intercalate_cons_cons, List.mem_append, List.mem_append] at h
      -- in the first arc, the dot behind it, or the rest
      rcases h with (h | h) | h
      · exact .inr (Decimal.isSymbol_of_mem_ofInt h)
      · exact .inl (List.mem_singleton.mp h)
      · exact ih h

/-- The text falls apart into the texts of the arcs, for no arc is written with a dot. -/
theorem splitOn_dotted {arcs : List Int} (h : arcs ≠ []) :
    (dotted arcs).toList.splitOn '.' = arcs.map fun n => (Decimal.ofInt n).toList := by
  rw [toList_dotted]
  refine List.splitOn_intercalate '.' ?_ (by simpa using h)
  simp only [List.forall_mem_map]
  intro n _ hdot
  rcases Decimal.isSymbol_of_mem_ofInt hdot with hminus | hdigit
  · exact absurd hminus (by decide)
  · exact absurd hdigit (by decide)

/-- No arcs give no characters, while any arc gives some. -/
theorem eq_nil_of_dotted_eq {arcs : List Int} (h : dotted arcs = dotted []) : arcs = [] := by
  by_contra hne
  have hsplit := splitOn_dotted hne
  rw [h] at hsplit
  cases arcs with
  | nil => exact hne rfl
  | cons n rest =>
    obtain ⟨htext, -⟩ := List.cons.inj hsplit
    exact Decimal.toList_ofInt_ne_nil n htext.symm

/-- **Arcs have texts of their own.** Joined by dots, no two sequences of integers give the same text. -/
theorem dotted_injective : Function.Injective dotted := by
  have htexts : Function.Injective fun n => (Decimal.ofInt n).toList := fun m n h =>
    Decimal.ofInt_injective (String.toList_injective h)
  intro arcs arcs' h
  -- the text tells the arcs only if there are any
  by_cases harcs : arcs = []
  · subst harcs
    exact (eq_nil_of_dotted_eq h.symm).symm
  · by_cases harcs' : arcs' = []
    · subst harcs'
      exact eq_nil_of_dotted_eq h
    · have hsplit := splitOn_dotted harcs
      rw [h, splitOn_dotted harcs'] at hsplit
      exact (List.map_injective_iff.mpr htexts hsplit).symm

/-! ### Numbers in groups of seven bits -/

/-- Octets in front of a number stay in front. -/
theorem continued_append (n : Nat) (after rest : Bytes) :
    continued n after ++ rest = continued n (after ++ rest) := by
  fun_induction continued n after with
  | case1 after => rw [continued, if_pos rfl]
  | case2 n after hne ih =>
    rw [ih, continued.eq_def n, if_neg hne]
    rfl

/-- Groups of a number that go on are read as the number, in front of what is next. -/
theorem groups_continued (n : Nat) (after : Bytes) : groups 0 (continued n after) = groups n after := by
  fun_induction continued n after with
  | case1 after => rfl
  | case2 n after hne ih =>
    have hoctet : (UInt8.ofNat (128 + n % 128)).toNat = 128 + n % 128 := by
      rw [UInt8.toNat_ofNat']
      omega
    have hnumber : n / 128 * 128 + (128 + n % 128) % 128 = n := by omega
    rw [ih, groups, hoctet, hnumber, if_neg (by omega)]

/-- **A number is read back from its groups**, whatever stands behind them. -/
theorem groups_arcOctets_append (n : Nat) (rest : Bytes) : groups 0 (arcOctets n ++ rest) = n :: groups 0 rest := by
  have hoctet : (UInt8.ofNat ((n : Int) % 128).toNat).toNat = n % 128 := by
    rw [UInt8.toNat_ofNat']
    omega
  have hnumber : n / 128 * 128 + n % 128 % 128 = n := by omega
  have hnonneg : ¬ (n : Int) < 0 := by omega
  rw [arcOctets, if_neg hnonneg, continued_append, groups_continued, Int.toNat_natCast, List.singleton_append,
    groups, hoctet, hnumber, if_pos (by omega)]

/-- **Numbers are read from their octets.** -/
theorem groups_flatMap_arcOctets (numbers : List Nat) :
    groups 0 (numbers.flatMap fun n : Nat => arcOctets n) = numbers := by
  induction numbers with
  | nil => rfl
  | cons n numbers ih => rw [List.flatMap_cons, groups_arcOctets_append, ih]

/-! ### Arcs -/

/-- **Arcs that can be encoded**: there are at least two, the first is at most two, and below a first arc of zero or one
the second is at most 39. -/
inductive HasEncoding : List Nat → Prop where
  | mk {first second : Nat} {rest : List Nat} (hfirst : first ≤ 2) (hsecond : first < 2 → second ≤ 39) :
      HasEncoding (first :: second :: rest)

/-- The numbers that stand in the octets of arcs: the first two arcs are merged. -/
def numbers : List Nat → List Nat
  | first :: second :: rest => (40 * first + second) :: rest
  | _ => []

/-- The encoded contents of arcs. -/
def contentsOf (as : List Nat) : Bytes :=
  (numbers as).flatMap fun n : Nat => arcOctets n

variable {as : List Nat}

/-- Arcs with an encoding are some. -/
theorem HasEncoding.ne_nil (h : HasEncoding as) : as ≠ [] := by
  cases h
  exact List.cons_ne_nil _ _

/-- The second arc is told from the first again. -/
theorem arcs_numbers (h : HasEncoding as) : arcs (numbers as) = as := by
  cases h with
  -- the first two arcs share a number, and the second is below 40 unless the first is two
  | @mk first second rest hfirst hsecond =>
    rw [numbers, arcs]
    split
    · obtain rfl : first = 2 := by omega
      simp
    · split
      · obtain rfl : first = 1 := by omega
        simp
      · obtain rfl : first = 0 := by omega
        simp

/-- Arcs with an encoding are encoded by their numbers. -/
theorem encodeArcs_eq (h : HasEncoding as) : encodeArcs (as.map fun n : Nat => (n : Int)) = some (contentsOf as) := by
  cases h with
  | @mk first second rest hfirst hsecond =>
    have hencoded : ¬ ((2 : Int) < first ∨ (first : Int) < 2 ∧ (40 : Int) ≤ second) := by omega
    have hmerged : (40 * first + second : Int) = ((40 * first + second : Nat) : Int) := by omega
    rw [List.map_cons, List.map_cons, encodeArcs, if_neg hencoded, hmerged, ← List.map_cons, List.flatMap_map]
    rfl

/-! ### There and back -/

/-- **The text of arcs gives their octets.** -/
theorem contents?_dotted (h : HasEncoding as) (hbounds : ∀ n ∈ as, n < Decimal.bound) :
    contents? (dotted (as.map fun n : Nat => (n : Int))) = some (contentsOf as) := by
  have hread : (as.map fun n : Nat => (Decimal.ofInt n).toList).mapM Decimal.read?
      = some (as.map fun n : Nat => (n : Int)) :=
    mapM_map_eq_some fun n hn => Decimal.read?_ofInt (Decimal.inBounds_natCast (hbounds n hn))
  rw [contents?, splitOn_dotted (by simpa using h.ne_nil), List.map_map, Function.comp_def, hread, Option.bind_some,
    encodeArcs_eq h]

/-- **The octets of arcs give their text.** -/
theorem dotted?_contentsOf (h : HasEncoding as) (hbounds : ∀ n ∈ as, n < Decimal.bound) :
    dotted? (contentsOf as) = some (dotted (as.map fun n : Nat => (n : Int))) := by
  have htexts : (as.map fun n : Nat => (n : Int)).mapM Decimal.text? = some (as.map fun n : Nat => Decimal.ofInt n) :=
    mapM_map_eq_some fun n hn => Decimal.text?_of_inBounds (Decimal.inBounds_natCast (hbounds n hn))
  rw [List.mapM_map, Function.comp_def] at htexts
  rw [dotted?, contentsOf, groups_flatMap_arcOctets, arcs_numbers h, htexts, Option.map_some, dotted, List.map_map]
  rfl

end Shroud.Ber.ObjectIdentifier
