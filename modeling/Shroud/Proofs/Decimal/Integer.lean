import Shroud.Decimal.Integer

/-!
# Integers in decimal are read back

The text of an integer consists of decimal digits behind a minus sign or no sign (`Decimal.IsSymbol`). There is nothing
in it that a reader drops or treats in another way, so reading gives the integer back (`Decimal.read?_ofInt`), as long
as it has no more digits than are ever read. Two integers of any size never have the same text
(`Decimal.ofInt_injective`).
-/

namespace Shroud

namespace Text

/-! ### Digits of ASCII among all characters -/

/-- The digits lie in one row. -/
theorem toNat_of_isDigit {c : Char} (h : c.isDigit = true) : 48 ≤ c.toNat ∧ c.toNat ≤ 57 := by
  simpa [Char.isDigit, UInt32.le_iff_toNat_le] using h

/-- A digit stands for its place in this row. -/
theorem digitValue?_of_isDigit {c : Char} (h : c.isDigit = true) : digitValue? c = some (c.toNat - '0'.toNat) := by
  obtain ⟨hlow, hhigh⟩ := toNat_of_isDigit h
  -- the digits of ASCII are the first run of the table
  unfold digitValue? zeroDigits
  rw [List.find?_cons_of_pos (by simp; omega)]
  rfl

/-- The sign is no digit. -/
theorem digitValue?_minus : digitValue? '-' = none := by
  decide +kernel

/-- No digit is a blank. -/
theorem isBlank_of_isDigit {c : Char} (h : c.isDigit = true) : isBlank c = false := by
  obtain ⟨hlow, hhigh⟩ := toNat_of_isDigit h
  simp only [isBlank, Bool.or_eq_false_iff, Bool.and_eq_false_iff, decide_eq_false_iff_not, beq_eq_false_iff_ne]
  omega

/-- Where there is nothing to trim, trimming does nothing. -/
theorem trim_eq_self {p : Char → Bool} {s : List Char} (h : ∀ c ∈ s, p c = false) : trim p s = s := by
  have hdrop : ∀ t : List Char, (∀ c ∈ t, p c = false) → t.dropWhile p = t := by
    intro t ht
    cases t with
    | nil => rfl
    | cons c cs => rw [List.dropWhile_cons_of_neg (by simp [ht c List.mem_cons_self])]
  rw [trim, hdrop s h, hdrop s.reverse (fun c hc => h c (List.mem_reverse.mp hc)), List.reverse_reverse]

end Text

namespace Decimal

/-! ### Digits -/

theorem isDigit_of_mem_digits {n : Nat} {c : Char} (h : c ∈ Nat.toDigits 10 n) : c.isDigit = true :=
  Nat.isDigit_of_mem_toDigits (by decide) (by decide) h

/-- Digits are read as the number that they spell, behind those that were read before. -/
theorem readDigits_of_forall_isDigit {cs : List Char} (h : ∀ c ∈ cs, c.isDigit = true) (n : Nat) :
    readDigits Text.digitValue? n cs = some (Nat.ofDigitChars 10 cs n) := by
  induction cs generalizing n with
  | nil => rfl
  | cons c cs ih =>
    obtain ⟨hc, hcs⟩ := List.forall_mem_cons.mp h
    -- underscores may stand between digits, and there are none here
    have hunderscore : c ≠ '_' := by
      rintro rfl
      exact absurd hc (by decide)
    rw [readDigits.eq_3 _ _ _ _ (fun _ _ h => absurd h hunderscore), Text.digitValue?_of_isDigit hc,
      Nat.ofDigitChars_cons, Nat.mul_comm 10 n]
    exact ih hcs _

/-- **The digits of a number are read back.** -/
theorem readNat_digits (n : Nat) : readNat Text.digitValue? (Nat.toDigits 10 n) = some n := by
  have hvalue : Nat.ofDigitChars 10 (Nat.toDigits 10 n) 0 = n := Nat.ofDigitChars_ten_toDigits
  have hdigits : ∀ c ∈ Nat.toDigits 10 n, c.isDigit = true := fun c => isDigit_of_mem_digits
  -- the first digit is read by itself
  cases h : Nat.toDigits 10 n with
  | nil => exact absurd h Nat.toDigits_ne_nil
  | cons c cs =>
    rw [h] at hvalue hdigits
    obtain ⟨hc, hcs⟩ := List.forall_mem_cons.mp hdigits
    rw [Nat.ofDigitChars_cons, Nat.mul_zero, Nat.zero_add] at hvalue
    rw [readNat, Text.digitValue?_of_isDigit hc]
    exact (readDigits_of_forall_isDigit hcs _).trans (congrArg some hvalue)

/-! ### Integers -/

/-- The characters that integers are written with. -/
def IsSymbol (c : Char) : Prop :=
  c = '-' ∨ c.isDigit = true

instance (c : Char) : Decidable (IsSymbol c) :=
  inferInstanceAs (Decidable (c = '-' ∨ c.isDigit = true))

/-- An integer is written with its digits, behind a sign if it is negative. -/
theorem toList_ofInt (n : Int) :
    (ofInt n).toList = if n < 0 then '-' :: Nat.toDigits 10 n.natAbs else Nat.toDigits 10 n.natAbs := by
  simp only [ofInt]
  split
  · rw [String.toList_append, String.toList_ofList, String.toList_ofList, List.singleton_append]
  · exact String.toList_ofList

/-- Nothing but digits and a sign is ever written. -/
theorem isSymbol_of_mem_ofInt {n : Int} {c : Char} (h : c ∈ (ofInt n).toList) : IsSymbol c := by
  rw [toList_ofInt] at h
  split at h
  · obtain rfl | hdigit := List.mem_cons.mp h
    · exact .inl rfl
    · exact .inr (isDigit_of_mem_digits hdigit)
  · exact .inr (isDigit_of_mem_digits h)

/-- Something is written for every integer. -/
theorem toList_ofInt_ne_nil (n : Int) : (ofInt n).toList ≠ [] := by
  rw [toList_ofInt]
  split
  · exact List.cons_ne_nil _ _
  · exact Nat.toDigits_ne_nil

/-- **What is written for an integer is read as this integer.** -/
theorem readSigned_ofInt (n : Int) : readSigned Text.digitValue? (ofInt n).toList = some n := by
  rw [toList_ofInt]
  split
  · next hneg =>
    rw [readSigned, readNat_digits]
    change some (-(n.natAbs : Int)) = some n
    congr 1
    omega
  · next hnonneg =>
    have hread : (readNat Text.digitValue? (Nat.toDigits 10 n.natAbs)).map Int.ofNat = some n := by
      rw [readNat_digits, Option.map_some]
      congr 1
      exact Int.natAbs_of_nonneg (Int.not_lt.mp hnonneg)
    -- the first character is a digit, so there is no sign
    cases hdigits : Nat.toDigits 10 n.natAbs with
    | nil => exact absurd hdigits Nat.toDigits_ne_nil
    | cons c cs =>
      have hc : c.isDigit = true := isDigit_of_mem_digits (n := n.natAbs) (by rw [hdigits]; exact List.mem_cons_self)
      rw [hdigits] at hread
      rw [readSigned.eq_3 _ _ (fun cs' h => ?_) (fun cs' h => ?_), hread]
      · obtain ⟨rfl, -⟩ := List.cons.inj h
        exact absurd hc (by decide)
      · obtain ⟨rfl, -⟩ := List.cons.inj h
        exact absurd hc (by decide)

/-- **Integers have texts of their own.** -/
theorem ofInt_injective : Function.Injective ofInt := by
  intro m n h
  have hread : some m = some n := by rw [← readSigned_ofInt m, h, readSigned_ofInt]
  exact Option.some.inj hread

theorem inBounds_natCast {n : Nat} (h : n < bound) : inBounds n = true :=
  decide_eq_true h

theorem text?_of_inBounds {n : Int} (h : inBounds n = true) : text? n = some (ofInt n) :=
  if_pos h

/-- No more digits are written than are read. -/
theorem length_digits_le {n : Int} (h : inBounds n = true) : (Nat.toDigits 10 n.natAbs).length ≤ digitLimit := by
  have hfew : ∀ {m limit : Nat}, 0 < limit → m < Nat.pow 10 limit → (Nat.toDigits 10 m).length ≤ limit :=
    fun hpos => (Nat.length_toDigits_le_iff (by decide) hpos).mpr
  have hlt : n.natAbs < bound := of_decide_eq_true h
  unfold bound at hlt
  exact hfew (by decide) hlt

/-- **Reading an integer that was written** gives the integer, if it has no more digits than are ever read. -/
theorem read?_ofInt {n : Int} (h : inBounds n = true) : read? (ofInt n).toList = some n := by
  -- there are no blanks around an integer
  have htrim : Text.trim Text.isBlank (ofInt n).toList = (ofInt n).toList := by
    refine Text.trim_eq_self fun c hc => ?_
    obtain rfl | hdigit := isSymbol_of_mem_ofInt hc
    · decide
    · exact Text.isBlank_of_isDigit hdigit
  -- and no more digits than may be read
  have hcount : ((ofInt n).toList.filter fun c => (Text.digitValue? c).isSome).length ≤ digitLimit := by
    refine Nat.le_trans ?_ (length_digits_le h)
    rw [toList_ofInt]
    split
    · -- the sign is no digit
      rw [List.filter_cons_of_neg (by simp [Text.digitValue?_minus])]
      exact List.length_filter_le _ _
    · exact List.length_filter_le _ _
  unfold read?
  rw [htrim, if_neg (by omega), readSigned_ofInt]

end Decimal

end Shroud
