import Shroud.Proofs.Json.Grammar

/-!
# A JSON text stands for one value

A part of a text is fixed (`Json.Fixes`) if every other reading of the text from the same place on finds the same part
there, with the same text behind it. For a number this needs that what is behind it does not go on with characters of
numbers, which is so everywhere in a text.

The leaves are fixed because digits, space and escapes end where they end. A value begins with a character that tells
which kind of value it is (`Json.start`), and the rest is induction on how the value is written (`IsValue.fixes`). So a
text stands for one value (`IsText.unique`).
-/

namespace Shroud.Json

/-! ### Where a run of characters ends -/

/-- A text that does not go on with a character of a kind. -/
def StopsAt (p : Char → Bool) (x : List Char) : Prop :=
  ∀ c ∈ x.head?, p c = false

/-- At the end of the text every run stops. -/
theorem stopsAt_nil (p : Char → Bool) : StopsAt p [] :=
  nofun

theorem stopsAt_cons {p : Char → Bool} {c : Char} (h : p c = false) (x : List Char) : StopsAt p (c :: x) := by
  intro d hd
  rwa [← Option.some.inj hd]

theorem StopsAt.head_eq_false {p : Char → Bool} {c : Char} {x : List Char} (h : StopsAt p (c :: x)) : p c = false :=
  h c rfl

/-- Runs of characters of a kind end at the same place. -/
theorem run_unique {p : Char → Bool} {a b x y : List Char} (ha : ∀ c ∈ a, p c = true) (hb : ∀ c ∈ b, p c = true)
    (hx : StopsAt p x) (hy : StopsAt p y) (h : a ++ x = b ++ y) : a = b ∧ x = y := by
  induction a generalizing b with
  -- one run has ended, so the other would go on where it must not
  | nil =>
    cases b with
    | nil => exact ⟨rfl, h⟩
    | cons c cs =>
      rw [List.nil_append, List.cons_append] at h
      rw [h] at hx
      exact absurd (hb c List.mem_cons_self) (by rw [hx.head_eq_false]; exact Bool.false_ne_true)
  | cons c cs ih =>
    obtain ⟨hc, hcs⟩ := List.forall_mem_cons.mp ha
    cases b with
    | nil =>
      rw [List.nil_append, List.cons_append] at h
      rw [← h] at hy
      exact absurd hc (by rw [hy.head_eq_false]; exact Bool.false_ne_true)
    | cons d ds =>
      obtain ⟨rfl, htail⟩ := List.cons.inj h
      obtain ⟨rfl, rfl⟩ := ih hcs (List.forall_mem_cons.mp hb).2 htail
      exact ⟨rfl, rfl⟩

/-! ### Numbers -/

theorem IsDigits.exists_cons {ds : List Char} (h : IsDigits ds) : ∃ c rest, ds = c :: rest ∧ c.isDigit = true := by
  obtain ⟨hne, hall⟩ := h
  cases ds with
  | nil => exact absurd rfl hne
  | cons c rest => exact ⟨c, rest, rfl, hall c List.mem_cons_self⟩

/-- Whole numbers are rows of digits. -/
theorem IsWhole.isDigits {ds : List Char} (h : IsWhole ds) : IsDigits ds := by
  cases h with
  | zero => exact ⟨List.cons_ne_nil _ _, List.forall_mem_cons.mpr ⟨rfl, fun _ hc => absurd hc List.not_mem_nil⟩⟩
  | digits h _ => exact h

/-- No digit is a sign. -/
theorem IsDigits.stopsAt_minus {ds : List Char} (h : IsDigits ds) (rest : List Char) :
    StopsAt (· = '-') (ds ++ rest) := by
  obtain ⟨c, ds, rfl, hc⟩ := h.exists_cons
  refine stopsAt_cons (decide_eq_false ?_) _
  rintro rfl
  exact absurd hc (by decide)

/-- A sign is told by what stands behind it. -/
theorem IsSign.unique {s t : Int} {cs ds x y : List Char} (hs : IsSign s cs) (ht : IsSign t ds)
    (hx : StopsAt (· = '-') x) (hy : StopsAt (· = '-') y) (h : cs ++ x = ds ++ y) : s = t ∧ x = y := by
  cases hs with
  | none =>
    cases ht with
    | none => exact ⟨rfl, h⟩
    | minus =>
      rw [List.nil_append, List.cons_append] at h
      -- no sign on the left, so the left goes on with what is no sign
      rw [h] at hx
      exact absurd hx.head_eq_false (by decide)
  | minus =>
    cases ht with
    | none =>
      rw [List.nil_append, List.cons_append] at h
      rw [← h] at hy
      exact absurd hy.head_eq_false (by decide)
    | minus => exact ⟨rfl, (List.cons.inj h).2⟩

/-- A power starts with a letter, where the digits stop. -/
theorem IsPower.stopsAt {e : Int} {cs : List Char} (h : IsPower e cs) : StopsAt (fun c => c.isDigit || c = '.') cs := by
  have hletter : ∀ c, isPowerLetter c = true → (c.isDigit || c = '.') = false := by
    intro c hc
    simp only [isPowerLetter, Bool.or_eq_true, decide_eq_true_eq] at hc
    obtain rfl | rfl := hc <;> decide
  cases h with
  | none => exact stopsAt_nil _
  | signed h _ _ => exact stopsAt_cons (hletter _ h) _
  | plus h _ => exact stopsAt_cons (hletter _ h) _

/-- **A power is read in one way.** -/
theorem IsPower.unique {e f : Int} {cs ds : List Char} (hcs : IsPower e cs) (hds : IsPower f ds) (h : cs = ds) :
    e = f := by
  -- a sign, or a digit, is no plus
  have hplus : ∀ {s : Int} {sign ds rest : List Char}, IsSign s sign → IsDigits ds → '+' :: rest ≠ sign ++ ds := by
    intro s sign ds rest hsign hds heq
    obtain ⟨c, ds, rfl, hc⟩ := hds.exists_cons
    cases hsign with
    | none =>
      obtain ⟨rfl, -⟩ := List.cons.inj heq
      exact absurd hc (by decide)
    | minus => exact absurd (List.cons.inj heq).1 (by decide)
  cases hcs with
  | none =>
    cases hds with
    | none => rfl
    | signed => exact nomatch h
    | plus => exact nomatch h
  -- behind the letter there is a sign, a plus, or a digit at once
  | signed _ hsign hdigits =>
    cases hds with
    | none => exact nomatch h
    | signed _ hsign' hdigits' =>
      have hstops : ∀ {ds}, IsDigits ds → StopsAt (· = '-') ds := fun {ds} hds =>
        List.append_nil ds ▸ hds.stopsAt_minus []
      obtain ⟨rfl, rfl⟩ := hsign.unique hsign' (hstops hdigits) (hstops hdigits') (List.cons.inj h).2
      rfl
    | plus _ _ => exact absurd (List.cons.inj h).2.symm (hplus hsign hdigits)
  | plus _ _ =>
    cases hds with
    | none => exact nomatch h
    | signed _ hsign hdigits => exact absurd (List.cons.inj h).2 (hplus hsign hdigits)
    | plus _ _ => rw [(List.cons.inj (List.cons.inj h).2).2]

/-- **A fraction is read in one way**, from the point to the last digit. -/
theorem IsFraction.unique {ds es cs bs x y : List Char} (hcs : IsFraction ds cs) (hbs : IsFraction es bs)
    (hx : StopsAt (fun c => c.isDigit || c = '.') x) (hy : StopsAt (fun c => c.isDigit || c = '.') y)
    (h : cs ++ x = bs ++ y) : ds = es ∧ x = y := by
  -- what stops at digits and points stops at digits
  have hdigit : ∀ {x}, StopsAt (fun c => c.isDigit || c = '.') x → StopsAt Char.isDigit x := fun hx c hc =>
    (Bool.or_eq_false_iff.mp (hx c hc)).1
  cases hcs with
  | none =>
    cases hbs with
    | none => exact ⟨rfl, h⟩
    | point =>
      rw [List.nil_append, List.cons_append] at h
      rw [h] at hx
      exact absurd hx.head_eq_false (by decide)
  | point hds =>
    cases hbs with
    | none =>
      rw [List.nil_append, List.cons_append] at h
      rw [← h] at hy
      exact absurd hy.head_eq_false (by decide)
    | point hes => exact run_unique hds.2 hes.2 (hdigit hx) (hdigit hy) (List.cons.inj h).2

/-- The text of a number stands for one number. -/
theorem IsNumber.unique {q r : ℚ} {cs ds : List Char} (hcs : IsNumber q cs) (hds : IsNumber r ds) (h : cs = ds) :
    q = r := by
  obtain ⟨hsign, hwhole, hfraction, hpower⟩ := hcs
  obtain ⟨hsign', hwhole', hfraction', hpower'⟩ := hds
  -- behind the whole digits there is no digit
  have hstops : ∀ {ds cs e ps}, IsFraction ds cs → IsPower e ps → StopsAt Char.isDigit (cs ++ ps) := by
    intro ds cs e ps hfraction hpower
    cases hfraction with
    | none => exact fun c hc => (Bool.or_eq_false_iff.mp (hpower.stopsAt c hc)).1
    | point => exact stopsAt_cons (by decide) _
  obtain ⟨rfl, hwholes⟩ := hsign.unique hsign' (hwhole.isDigits.stopsAt_minus _) (hwhole'.isDigits.stopsAt_minus _) h
  obtain ⟨rfl, hfractions⟩ := run_unique hwhole.isDigits.2 hwhole'.isDigits.2 (hstops hfraction hpower)
    (hstops hfraction' hpower') hwholes
  obtain ⟨rfl, hpowers⟩ := hfraction.unique hfraction' hpower.stopsAt hpower'.stopsAt hfractions
  rw [hpower.unique hpower' hpowers]

/-! ### Strings -/

/-- **A unit is read in one way**: it has four digits, and each digit has one value. -/
theorem IsUnit.unique {m n : Nat} {cs ds x y : List Char} (hcs : IsUnit m cs) (hds : IsUnit n ds)
    (h : cs ++ x = ds ++ y) : m = n ∧ x = y := by
  obtain ⟨ha, hb, hc, hd⟩ := hcs
  obtain ⟨ha', hb', hc', hd'⟩ := hds
  simp only [List.cons_append, List.nil_append, List.cons.injEq, true_and] at h
  obtain ⟨rfl, rfl, rfl, rfl, rfl⟩ := h
  -- the same four digits have the same four values
  obtain rfl := Option.some.inj (ha.symm.trans ha')
  obtain rfl := Option.some.inj (hb.symm.trans hb')
  obtain rfl := Option.some.inj (hc.symm.trans hc')
  obtain rfl := Option.some.inj (hd.symm.trans hd')
  exact ⟨rfl, rfl⟩

theorem IsUnit.exists_cons {n : Nat} {cs : List Char} (h : IsUnit n cs) : ∃ rest, cs = '\\' :: 'u' :: rest := by
  cases h
  exact ⟨_, rfl⟩

/-- A character is no surrogate. -/
theorem toNat_ne_surrogate (c : Char) : c.toNat < 0xd800 ∨ 0xdfff < c.toNat ∧ c.toNat < 0x110000 :=
  c.valid

/-- The number of a character is not the first surrogate of another. -/
theorem toNat_ne_high (c d : Char) : c.toNat ≠ 0xd800 + (d.toNat - 0x10000) / 0x400 := by
  have hc := toNat_ne_surrogate c
  have hd := toNat_ne_surrogate d
  omega

/-- No short escape begins a number. -/
theorem IsUnit.ne_short {n : Nat} {cs x y : List Char} {c letter : Char} (h : IsUnit n cs)
    (hletter : shortEscapes.lookup letter = some c) : '\\' :: letter :: x ≠ cs ++ y := by
  obtain ⟨rest, rfl⟩ := h.exists_cons
  intro heq
  obtain ⟨rfl, -⟩ := List.cons.inj (List.cons.inj heq).2
  exact nomatch hletter

theorem IsEscape.exists_cons {c : Char} {cs : List Char} (h : IsEscape c cs) : ∃ rest, cs = '\\' :: rest := by
  cases h with
  | short => exact ⟨_, rfl⟩
  | unit h =>
    obtain ⟨rest, rfl⟩ := h.exists_cons
    exact ⟨_, rfl⟩
  | surrogates _ hhigh _ =>
    obtain ⟨rest, rfl⟩ := hhigh.exists_cons
    exact ⟨_, rfl⟩

/-- **An escape is read in one way.** -/
theorem IsEscape.unique {c d : Char} {cs ds x y : List Char} (hcs : IsEscape c cs) (hds : IsEscape d ds)
    (h : cs ++ x = ds ++ y) : c = d ∧ x = y := by
  cases hcs with
  -- the character behind the backslash tells short escapes from units
  | short hletter =>
    cases hds with
    | short hletter' =>
      obtain ⟨rfl, rfl⟩ := List.cons.inj (List.cons.inj h).2
      exact ⟨Option.some.inj (hletter.symm.trans hletter'), rfl⟩
    | unit hunit => exact absurd h (hunit.ne_short hletter)
    | surrogates _ hhigh _ => exact absurd (h.trans (List.append_assoc ..)) (hhigh.ne_short hletter)
  | unit hunit =>
    cases hds with
    | short hletter => exact absurd h.symm (hunit.ne_short hletter)
    | unit hunit' =>
      obtain ⟨hnumber, hrest⟩ := hunit.unique hunit' h
      exact ⟨Char.toNat_inj.mp hnumber, hrest⟩
    | surrogates _ hhigh _ =>
      exact absurd (hunit.unique hhigh (h.trans (List.append_assoc ..))).1 (toNat_ne_high c d)
  | surrogates habove hhigh hlow =>
    cases hds with
    | short hletter => exact absurd (h.symm.trans (List.append_assoc ..)) (hhigh.ne_short hletter)
    | unit hunit => exact absurd (hunit.unique hhigh (h.symm.trans (List.append_assoc ..))).1 (toNat_ne_high d c)
    | surrogates habove' hhigh' hlow' =>
      rw [List.append_assoc, List.append_assoc] at h
      -- the high half and the low half give the two parts of the number
      obtain ⟨hquotient, hrest⟩ := hhigh.unique hhigh' h
      obtain ⟨hremainder, hrest⟩ := hlow.unique hlow' hrest
      exact ⟨Char.toNat_inj.mp (by omega), hrest⟩

/-- What stands for a character stands for one. -/
theorem IsCharacter.unique {c d : Char} {cs ds x y : List Char} (hcs : IsCharacter c cs) (hds : IsCharacter d ds)
    (h : cs ++ x = ds ++ y) : c = d ∧ x = y := by
  cases hcs with
  | itself _ _ hbackslash =>
    cases hds with
    | itself => exact List.cons.inj h
    | escaped hescape =>
      -- an escape starts with a backslash, and a backslash is not written as itself
      obtain ⟨rest, rfl⟩ := hescape.exists_cons
      exact absurd (List.cons.inj h).1 hbackslash
  | escaped hescape =>
    cases hds with
    | itself _ _ hbackslash =>
      obtain ⟨rest, rfl⟩ := hescape.exists_cons
      exact absurd (List.cons.inj h).1.symm hbackslash
    | escaped hescape' => exact hescape.unique hescape' h

/-- No character between quotes begins with a quote. -/
theorem IsCharacter.ne_quote {c : Char} {cs x y : List Char} (h : IsCharacter c cs) : '"' :: x ≠ cs ++ y := by
  cases h with
  | itself _ hquote _ => exact fun heq => hquote (List.cons.inj heq).1.symm
  | escaped hescape =>
    obtain ⟨rest, rfl⟩ := hescape.exists_cons
    exact fun heq => absurd (List.cons.inj heq).1 (by decide)

/-- Between quotes there is one text, and it ends at one place. -/
theorem IsQuoted.unique {s t cs ds x y : List Char} (hcs : IsQuoted s cs) (hds : IsQuoted t ds)
    (h : cs ++ x = ds ++ y) : s = t ∧ x = y := by
  -- character by character, until both texts are closed
  induction hcs generalizing t ds with
  | close =>
    cases hds with
    | close => exact ⟨rfl, (List.cons.inj h).2⟩
    | cons hd _ => exact absurd (h.trans (List.append_assoc ..)) hd.ne_quote
  | cons hc _ ih =>
    cases hds with
    | close => exact absurd (h.symm.trans (List.append_assoc ..)) hc.ne_quote
    | cons hd hrest =>
      rw [List.append_assoc, List.append_assoc] at h
      obtain ⟨rfl, htail⟩ := hc.unique hd h
      obtain ⟨rfl, rfl⟩ := ih hrest htail
      exact ⟨rfl, rfl⟩

/-! ### Where a value begins and ends -/

/-- The kinds of values that are told apart by how they begin. -/
inductive Kind where
  | null
  | true
  | false
  | number
  | string
  | array
  | object

/-- The kind of a value. -/
def kind : Json → Kind
  | null => .null
  | bool true => .true
  | bool false => .false
  | number _ => .number
  | string _ => .string
  | array _ => .array
  | object _ => .object

/-- **The kind of value that begins with a character.** -/
def kindOf? (c : Char) : Option Kind :=
  if c.isDigit || c = '-' then some .number
  else if c = 'n' then some .null
  else if c = 't' then some .true
  else if c = 'f' then some .false
  else if c = '"' then some .string
  else if c = '[' then some .array
  else if c = '\x7b' then some .object
  else none

/-- A number starts with a digit or a sign. -/
theorem IsNumber.exists_cons {q : ℚ} {cs : List Char} (h : IsNumber q cs) :
    ∃ c rest, cs = c :: rest ∧ (c.isDigit || c = '-') = true := by
  obtain ⟨hsign, hwhole, -, -⟩ := h
  cases hsign with
  | none =>
    obtain ⟨c, rest, rfl, hc⟩ := hwhole.isDigits.exists_cons
    exact ⟨c, _, rfl, Bool.or_eq_true_iff.mpr (.inl hc)⟩
  | minus => exact ⟨_, _, rfl, rfl⟩

/-- The first character of a value tells its kind. -/
theorem IsValue.exists_cons {j : Json} {cs : List Char} (h : IsValue j cs) :
    ∃ c rest, cs = c :: rest ∧ kindOf? c = some j.kind := by
  cases h with
  | number h =>
    obtain ⟨c, rest, rfl, hc⟩ := h.exists_cons
    exact ⟨c, rest, rfl, if_pos hc⟩
  | _ => exact ⟨_, _, rfl, rfl⟩

/-- **The first character tells the kind of a value.** -/
theorem IsValue.kind_eq {j k : Json} {cs ds x y : List Char} (hj : IsValue j cs) (hk : IsValue k ds)
    (h : cs ++ x = ds ++ y) : j.kind = k.kind := by
  obtain ⟨c, cs, rfl, hc⟩ := hj.exists_cons
  obtain ⟨d, ds, rfl, hd⟩ := hk.exists_cons
  obtain ⟨rfl, -⟩ := List.cons.inj h
  exact Option.some.inj (hc.symm.trans hd)

/-- What starts a value is no space. -/
theorem isSpace_of_kindOf? {c : Char} {k : Kind} (h : kindOf? c = some k) : isSpace c = false := by
  rw [Bool.eq_false_iff]
  intro hc
  simp only [isSpace, Bool.or_eq_true, decide_eq_true_eq] at hc
  obtain ((rfl | rfl) | rfl) | rfl := hc <;> exact nomatch h

/-- Values and members do not begin with space. -/
def Begins (cs : List Char) : Prop :=
  ∃ c rest, cs = c :: rest ∧ isSpace c = false

/-- The first character of a value is no space. -/
theorem IsValue.begins {j : Json} {cs : List Char} (h : IsValue j cs) : Begins cs := by
  obtain ⟨c, rest, rfl, hc⟩ := h.exists_cons
  exact ⟨c, rest, rfl, isSpace_of_kindOf? hc⟩

theorem IsMember.begins {m : String × Json} {cs : List Char} (h : IsMember m cs) : Begins cs := by
  cases h
  exact ⟨'"', _, rfl, rfl⟩

/-- Space in front of either of them is read to its end. -/
theorem Begins.stopsAt {cs : List Char} (h : Begins cs) (x : List Char) : StopsAt isSpace (cs ++ x) := by
  obtain ⟨c, rest, rfl, hc⟩ := h
  -- the first character is no space, whatever follows
  exact stopsAt_cons hc _

/-- The characters that numbers are written with. -/
def isNumeric (c : Char) : Bool :=
  c.isDigit || c = '-' || c = '+' || c = '.' || isPowerLetter c

/-- The characters behind an item or a member. -/
def isSeparator (c : Char) : Bool :=
  c = ',' || c = ']' || c = '\x7d'

/-- Separators end both space and numbers. -/
theorem stopsAt_of_isSeparator {c : Char} (h : isSeparator c = true) (x : List Char) :
    StopsAt isSpace (c :: x) ∧ StopsAt isNumeric (c :: x) := by
  simp only [isSeparator, Bool.or_eq_true, decide_eq_true_eq] at h
  obtain (rfl | rfl) | rfl := h <;> exact ⟨stopsAt_cons (by decide) _, stopsAt_cons (by decide) _⟩

/-- Numbers do not go on behind space. -/
theorem IsSpace.stopsAt_append {space x : List Char} (h : IsSpace space) (hx : StopsAt isNumeric x) :
    StopsAt isNumeric (space ++ x) := by
  cases space with
  | nil => exact hx
  | cons c rest =>
    have hc := h c List.mem_cons_self
    simp only [isSpace, Bool.or_eq_true, decide_eq_true_eq] at hc
    refine stopsAt_cons ?_ _
    obtain ((rfl | rfl) | rfl) | rfl := hc <;> decide

/-- A number consists of numeric characters. -/
theorem IsNumber.forall_isNumeric {q : ℚ} {cs : List Char} (h : IsNumber q cs) : ∀ c ∈ cs, isNumeric c = true := by
  obtain ⟨hsign, hwhole, hfraction, hpower⟩ := h
  have hdigits : ∀ {ds}, IsDigits ds → ∀ c ∈ ds, isNumeric c = true := fun hds c hc => by
    rw [isNumeric, hds.2 c hc]
    rfl
  have hsigns : ∀ {s ds}, IsSign s ds → ∀ c ∈ ds, isNumeric c = true := fun hds => by
    cases hds with
    | none => exact fun _ hc => absurd hc List.not_mem_nil
    | minus => exact List.forall_mem_singleton.mpr (by decide)
  have hletter : ∀ {c}, isPowerLetter c = true → isNumeric c = true := fun hc => Bool.or_eq_true_iff.mpr (.inr hc)
  -- a sign, a whole number, a fraction and a power
  refine List.forall_mem_append.mpr ⟨hsigns hsign, List.forall_mem_append.mpr ⟨hdigits hwhole.isDigits, ?_⟩⟩
  refine List.forall_mem_append.mpr ⟨?_, ?_⟩
  · cases hfraction with
    | none => exact fun _ hc => absurd hc List.not_mem_nil
    | point h => exact List.forall_mem_cons.mpr ⟨by decide, hdigits h⟩
  · cases hpower with
    | none => exact fun _ hc => absurd hc List.not_mem_nil
    | signed h hsign hds =>
      exact List.forall_mem_cons.mpr ⟨hletter h, List.forall_mem_append.mpr ⟨hsigns hsign, hdigits hds⟩⟩
    | plus h hds => exact List.forall_mem_cons.mpr ⟨hletter h, List.forall_mem_cons.mpr ⟨by decide, hdigits hds⟩⟩

/-! ### Parts that are fixed -/

/-- **A part of a text that is fixed**: every other reading finds the same there, and the same behind it. -/
def Fixes {α : Type} (Reads : α → List Char → Prop) (a : α) (cs : List Char) : Prop :=
  ∀ ⦃b ds x y⦄, Reads b ds → StopsAt isNumeric x → StopsAt isNumeric y → cs ++ x = ds ++ y → a = b ∧ x = y

/-- A number ends where what stands behind it is not numeric. -/
theorem IsNumber.fixes {q : ℚ} {cs : List Char} (h : IsNumber q cs) : Fixes IsNumber q cs := by
  intro r ds x y hr hx hy heq
  obtain ⟨rfl, hrest⟩ := run_unique h.forall_isNumeric hr.forall_isNumeric hx hy heq
  exact ⟨h.unique hr rfl, hrest⟩

/-- An item or a member is fixed with the space around it and the separator behind it. -/
theorem Fixes.padded {α : Type} {Reads : α → List Char → Prop} {a b : α} {cs ds s s' t t' x y : List Char} {c d : Char}
    (h : Fixes Reads a cs) (hb : Reads b ds) (hcs : Begins cs) (hds : Begins ds) (hs : IsSpace s) (hs' : IsSpace s')
    (ht : IsSpace t) (ht' : IsSpace t') (hc : isSeparator c = true) (hd : isSeparator d = true)
    (heq : s ++ (cs ++ (t ++ c :: x)) = s' ++ (ds ++ (t' ++ d :: y))) : a = b ∧ c = d ∧ x = y := by
  obtain ⟨hspaceC, hnumericC⟩ := stopsAt_of_isSeparator hc x
  obtain ⟨hspaceD, hnumericD⟩ := stopsAt_of_isSeparator hd y
  obtain ⟨-, hparts⟩ := run_unique hs hs' (hcs.stopsAt _) (hds.stopsAt _) heq
  obtain ⟨rfl, hbehind⟩ := h hb (ht.stopsAt_append hnumericC) (ht'.stopsAt_append hnumericD) hparts
  obtain ⟨-, hseparators⟩ := run_unique ht ht' hspaceC hspaceD hbehind
  exact ⟨rfl, List.cons.inj hseparators⟩

/-- What is closed at once is closed at one place. -/
theorem closing_unique {s s' x y : List Char} {c : Char} (hs : IsSpace s) (hs' : IsSpace s')
    (hc : isSeparator c = true) (h : (s ++ [c]) ++ x = (s' ++ [c]) ++ y) : x = y := by
  rw [List.append_assoc, List.append_assoc] at h
  obtain ⟨-, hclosing⟩ := run_unique hs hs' (stopsAt_of_isSeparator hc x).1 (stopsAt_of_isSeparator hc y).1 h
  exact (List.cons.inj hclosing).2

/-- Space up to a closing character does not read as an item or a member. -/
theorem Begins.ne_closing {cs s s' x y : List Char} {c : Char} (h : Begins cs) (hs : IsSpace s) (hs' : IsSpace s')
    (hc : isSeparator c = true) (hfirst : ∀ rest, cs ≠ c :: rest) : s ++ c :: x ≠ s' ++ (cs ++ y) := by
  intro heq
  obtain ⟨-, hparts⟩ := run_unique hs hs' (stopsAt_of_isSeparator hc x).1 (h.stopsAt y) heq
  obtain ⟨d, rest, rfl, -⟩ := h
  obtain ⟨rfl, -⟩ := List.cons.inj hparts
  exact hfirst rest rfl

section

variable {α : Type} {Reads : α → List Char → Prop} {Row : List α → List Char → Prop} {closing : Char}

/-- What is closed at once is no row. -/
theorem IsRow.ne_space {as : List α} {cs space x y : List Char} (h : IsRow Reads Row closing as cs)
    (hbegins : ∀ {a cs}, Reads a cs → Begins cs) (hfirst : ∀ {a rest}, ¬Reads a (closing :: rest))
    (hclosing : isSeparator closing = true) (hspace : IsSpace space) : (space ++ [closing]) ++ x ≠ cs ++ y := by
  cases h with
  | last hbefore ha _ =>
    simp only [List.append_assoc]
    exact (hbegins ha).ne_closing hspace hbefore hclosing fun rest hcs => hfirst (hcs ▸ ha)
  | cons hbefore ha _ _ =>
    simp only [List.append_assoc]
    exact (hbegins ha).ne_closing hspace hbefore hclosing fun rest hcs => hfirst (hcs ▸ ha)

/-- A row of one part is fixed if the part is. -/
theorem Fixes.last {a : α} {before cs after : List Char} (h : Fixes Reads a cs) (hcs : Begins cs)
    (hbegins : ∀ {a cs}, Reads a cs → Begins cs) (hclosing : isSeparator closing = true) (hcomma : closing ≠ ',')
    (hbefore : IsSpace before) (hafter : IsSpace after) :
    Fixes (IsRow Reads Row closing) [a] (before ++ (cs ++ (after ++ [closing]))) := by
  intro bs ds x y hbs _ _ heq
  simp only [List.append_assoc, List.cons_append, List.nil_append] at heq
  cases hbs with
  | last hbefore' hb hafter' =>
    simp only [List.append_assoc, List.cons_append, List.nil_append] at heq
    obtain ⟨rfl, -, hend⟩ := h.padded hb hcs (hbegins hb) hbefore hbefore' hafter hafter' hclosing hclosing heq
    exact ⟨rfl, hend⟩
  | cons hbefore' hb hafter' _ =>
    simp only [List.append_assoc, List.cons_append] at heq
    -- a row that goes on has a comma where this one is closed
    obtain ⟨-, hseparator, -⟩ := h.padded hb hcs (hbegins hb) hbefore hbefore' hafter hafter' hclosing rfl heq
    exact absurd hseparator hcomma

/-- A longer row is fixed if its first part is, and the row behind that. -/
theorem Fixes.cons {a : α} {as : List α} {before cs after rest : List Char} (h : Fixes Reads a cs)
    (hrest : Fixes Row as rest) (hcs : Begins cs) (hbegins : ∀ {a cs}, Reads a cs → Begins cs)
    (hclosing : isSeparator closing = true) (hcomma : closing ≠ ',') (hbefore : IsSpace before)
    (hafter : IsSpace after) :
    Fixes (IsRow Reads Row closing) (a :: as) (before ++ (cs ++ (after ++ ',' :: rest))) := by
  intro bs ds x y hbs hx hy heq
  simp only [List.append_assoc, List.cons_append] at heq
  cases hbs with
  | last hbefore' hb hafter' =>
    simp only [List.append_assoc, List.cons_append, List.nil_append] at heq
    -- a row that ends here is closed where this one has a comma
    obtain ⟨-, hseparator, -⟩ := h.padded hb hcs (hbegins hb) hbefore hbefore' hafter hafter' rfl hclosing heq
    exact absurd hseparator.symm hcomma
  | cons hbefore' hb hafter' hrest' =>
    simp only [List.append_assoc, List.cons_append] at heq
    obtain ⟨rfl, -, hbehind⟩ := h.padded hb hcs (hbegins hb) hbefore hbefore' hafter hafter' rfl rfl heq
    obtain ⟨rfl, hend⟩ := hrest hrest' hx hy hbehind
    exact ⟨rfl, hend⟩

end

/-- An array that is closed at once has no items. -/
theorem IsItems.ne_space {items : List Json} {cs space x y : List Char} (h : IsItems items cs)
    (hspace : IsSpace space) : (space ++ [']']) ++ x ≠ cs ++ y := by
  refine (isItems_iff.mp h).ne_space IsValue.begins ?_ rfl hspace
  intro j rest hvalue
  obtain ⟨c, _, hcons, hkind⟩ := hvalue.exists_cons
  obtain ⟨rfl, -⟩ := List.cons.inj hcons
  exact nomatch hkind

/-- An object with members is not one that is empty but for space. -/
theorem IsMembers.ne_space {members : List (String × Json)} {cs space x y : List Char} (h : IsMembers members cs)
    (hspace : IsSpace space) : (space ++ ['\x7d']) ++ x ≠ cs ++ y :=
  (isMembers_iff.mp h).ne_space IsMember.begins nofun rfl hspace

mutual

/-- **Values are fixed**, by induction on how they are written. -/
theorem IsValue.fixes : ∀ {j cs}, IsValue j cs → Fixes IsValue j cs
  | _, _, .null => by
    intro k ds x y hk _ _ h
    have hkind := IsValue.null.kind_eq hk h
    cases hk with
    | null => exact ⟨rfl, List.append_cancel_left h⟩
    | _ => exact nomatch hkind
  | _, _, .true => by
    intro k ds x y hk _ _ h
    have hkind := IsValue.true.kind_eq hk h
    cases hk with
    | true => exact ⟨rfl, List.append_cancel_left h⟩
    | _ => exact nomatch hkind
  | _, _, .false => by
    intro k ds x y hk _ _ h
    have hkind := IsValue.false.kind_eq hk h
    cases hk with
    | false => exact ⟨rfl, List.append_cancel_left h⟩
    | _ => exact nomatch hkind
  | _, _, .number hnumber => by
    intro k ds x y hk hx hy h
    have hkind := (IsValue.number hnumber).kind_eq hk h
    cases hk with
    | number hnumber' =>
      obtain ⟨rfl, hrest⟩ := hnumber.fixes hnumber' hx hy h
      exact ⟨rfl, hrest⟩
    | _ => exact nomatch hkind
  | _, _, .string hquoted => by
    intro k ds x y hk _ _ h
    have hkind := (IsValue.string hquoted).kind_eq hk h
    cases hk with
    | string hquoted' =>
      obtain ⟨htext, hrest⟩ := hquoted.unique hquoted' (List.cons.inj h).2
      rw [String.toList_inj.mp htext]
      exact ⟨rfl, hrest⟩
    | _ => exact nomatch hkind
  -- an array without items has space only, and one with items has more
  | _, _, .emptyArray hspace => by
    intro k ds x y hk _ _ h
    have hkind := (IsValue.emptyArray hspace).kind_eq hk h
    cases hk with
    | emptyArray hspace' => exact ⟨rfl, closing_unique hspace hspace' rfl (List.cons.inj h).2⟩
    | array hitems => exact absurd (List.cons.inj h).2 (hitems.ne_space hspace)
    | _ => exact nomatch hkind
  | _, _, .array hitems => by
    intro k ds x y hk hx hy h
    have hkind := (IsValue.array hitems).kind_eq hk h
    cases hk with
    | emptyArray hspace => exact absurd (List.cons.inj h).2.symm (hitems.ne_space hspace)
    | array hitems' =>
      obtain ⟨rfl, hrest⟩ := hitems.fixes hitems' hx hy (List.cons.inj h).2
      exact ⟨rfl, hrest⟩
    | _ => exact nomatch hkind
  | _, _, .emptyObject hspace => by
    intro k ds x y hk _ _ h
    have hkind := (IsValue.emptyObject hspace).kind_eq hk h
    cases hk with
    | emptyObject hspace' => exact ⟨rfl, closing_unique hspace hspace' rfl (List.cons.inj h).2⟩
    | object hmembers => exact absurd (List.cons.inj h).2 (hmembers.ne_space hspace)
    | _ => exact nomatch hkind
  | _, _, .object hmembers => by
    intro k ds x y hk hx hy h
    have hkind := (IsValue.object hmembers).kind_eq hk h
    cases hk with
    | emptyObject hspace => exact absurd (List.cons.inj h).2.symm (hmembers.ne_space hspace)
    | object hmembers' =>
      obtain ⟨rfl, hrest⟩ := hmembers.fixes hmembers' hx hy (List.cons.inj h).2
      exact ⟨rfl, hrest⟩
    | _ => exact nomatch hkind

theorem IsItems.fixes : ∀ {items cs}, IsItems items cs → Fixes IsItems items cs
  | _, _, .last hbefore hvalue hafter => by
    intro items ds x y hitems
    exact hvalue.fixes.last hvalue.begins IsValue.begins rfl (by decide) hbefore hafter (isItems_iff.mp hitems)
  | _, _, .cons hbefore hvalue hafter hrest => by
    intro items ds x y hitems
    exact hvalue.fixes.cons hrest.fixes hvalue.begins IsValue.begins rfl (by decide) hbefore hafter
      (isItems_iff.mp hitems)

/-- **A member is read in one way**: its name, the colon, and its value. -/
theorem IsMember.fixes : ∀ {m cs}, IsMember m cs → Fixes IsMember m cs
  | _, _, .mk hname hbefore hafter hvalue => by
    intro m ds x y hm hx hy h
    cases hm with
    | mk hname' hbefore' hafter' hvalue' =>
      simp only [List.append_assoc, List.cons_append, List.cons.injEq, true_and] at h
      obtain ⟨hnames, hcolon⟩ := hname.unique hname' h
      -- the space on both sides of the colon stops at the colon and at the value
      obtain ⟨-, hcolon⟩ := run_unique hbefore hbefore' (stopsAt_cons rfl _) (stopsAt_cons rfl _) hcolon
      obtain ⟨-, hvalues⟩ := run_unique hafter hafter' (hvalue.begins.stopsAt _) (hvalue'.begins.stopsAt _)
        (List.cons.inj hcolon).2
      obtain ⟨rfl, hrest⟩ := hvalue.fixes hvalue' hx hy hvalues
      rw [String.toList_inj.mp hnames]
      exact ⟨rfl, hrest⟩

theorem IsMembers.fixes : ∀ {members cs}, IsMembers members cs → Fixes IsMembers members cs
  | _, _, .last hbefore hmember hafter => by
    intro members ds x y hmembers
    exact hmember.fixes.last hmember.begins IsMember.begins rfl (by decide) hbefore hafter (isMembers_iff.mp hmembers)
  | _, _, .cons hbefore hmember hafter hrest => by
    intro members ds x y hmembers
    exact hmember.fixes.cons hrest.fixes hmember.begins IsMember.begins rfl (by decide) hbefore hafter
      (isMembers_iff.mp hmembers)

end

/-- **A text stands for one value at most.** -/
theorem IsText.unique {j k : Json} {cs ds : List Char} (hj : IsText j cs) (hk : IsText k ds) (h : cs = ds) : j = k := by
  obtain ⟨hbefore, hvalue, hafter⟩ := hj
  obtain ⟨hbefore', hvalue', hafter'⟩ := hk
  have hends : ∀ {space}, IsSpace space → StopsAt isNumeric space := fun {space} hspace =>
    List.append_nil space ▸ hspace.stopsAt_append (stopsAt_nil _)
  obtain ⟨-, hparts⟩ := run_unique hbefore hbefore' (hvalue.begins.stopsAt _) (hvalue'.begins.stopsAt _) h
  exact (hvalue.fixes hvalue' (hends hafter) (hends hafter') hparts).1

end Shroud.Json
