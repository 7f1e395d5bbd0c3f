import Shroud.Value.Printer

/-!
# Values that can be written

Two things keep a value from being written. An integer may have more digits than are ever written (`Value.fits`), and in
JSON a dictionary may have a key that is no name there (`Value.hasJson`). The checks follow the texts of a value, which
are put together from those of its parts without regard to each other, so that one equation for each text says it all
(`Value.isOk_inspect`, `Value.isOk_display`, `Value.isOk_json`).

Ordinary values (`Value.isOrdinary`) have all of these texts.
-/

namespace Shroud

/-! ### Steps that do not depend on each other -/

section

variable {ε α β γ : Type}

/-- A step succeeds if it has a result. -/
theorem isOk_iff {x : Except ε α} : x.isOk = true ↔ ∃ a, x = .ok a := by
  cases x with
  | ok a => exact iff_of_true rfl ⟨a, rfl⟩
  | error failure => exact iff_of_false Bool.false_ne_true nofun

/-- What is made of a result cannot fail. -/
theorem isOk_map (x : Except ε α) (f : α → β) : (x.map f).isOk = x.isOk := by
  cases x <;> rfl

theorem isOk_bind_pure (x : Except ε α) (f : α → β) : (x >>= fun a => pure (f a)).isOk = x.isOk := by
  cases x <;> rfl

/-- Two steps after each other, whatever is made of their results. -/
theorem isOk_bind_bind (x : Except ε α) (y : Except ε β) (f : α → β → γ) :
    (x >>= fun a => y >>= fun b => pure (f a b)).isOk = (x.isOk && y.isOk) := by
  cases x with
  -- what is made of the second result can use the first one, and still cannot fail
  | ok a => exact isOk_bind_pure y (f a)
  | error failure => rfl

/-- Three steps after each other, whatever is made of their results. -/
theorem isOk_bind_bind_bind {δ : Type} (x : Except ε α) (y : Except ε β) (z : Except ε γ) (f : α → β → γ → δ) :
    (x >>= fun a => y >>= fun b => z >>= fun c => pure (f a b c)).isOk = (x.isOk && y.isOk && z.isOk) := by
  cases x with
  | ok a => exact isOk_bind_bind y z (f a)
  | error failure => rfl

end

namespace Value

/-! ### Values that can be written -/

mutual

/-- **Whether a value can be written for people**: all integers in it have few enough digits. -/
def fits : Value → Bool
  | int n => Decimal.inBounds n
  | list vs | tuple vs | fault _ vs => fitAll vs
  | dict es => fitEntries es
  | _ => true

/-- Whether values can be written for people. -/
def fitAll : List Value → Bool
  | [] => true
  | v :: vs => fits v && fitAll vs

/-- Whether entries can be written for people. -/
def fitEntries : List (Value × Value) → Bool
  | [] => true
  | (k, v) :: rest => fits k && fits v && fitEntries rest

end

/-- Whether JSON has a name for a key. -/
def isJsonName : Value → Bool
  | text _ | scheme _ | null | bool _ | purpose _ | float _ => true
  | int n => Decimal.inBounds n
  | _ => false

mutual

/-- **Whether a value can be written in JSON.** What JSON has no form for is written for people there. -/
def hasJson : Value → Bool
  | list vs | tuple vs => haveJson vs
  | dict es => entriesHaveJson es
  | v => fits v

/-- Whether values can be written in JSON. -/
def haveJson : List Value → Bool
  | [] => true
  | v :: vs => hasJson v && haveJson vs

/-- Whether entries can be written in JSON. -/
def entriesHaveJson : List (Value × Value) → Bool
  | [] => true
  | (k, v) :: rest => isJsonName k && hasJson v && entriesHaveJson rest

end

/-- An integer is written if it has few enough digits. -/
theorem isOk_ofInteger (n : Int) : (ofInteger n).isOk = Decimal.inBounds n := by
  unfold ofInteger Decimal.text?
  cases Decimal.inBounds n <;> rfl

mutual

/-- **A value is inspected exactly if it fits.** Its text is made of those of its parts, and only integers can fail. -/
theorem isOk_inspect : ∀ v, (inspect v).isOk = fits v
  | int n => isOk_ofInteger n
  | list vs | tuple vs | fault _ vs => by rw [inspect, isOk_map, isOk_inspectAll vs, fits]
  | dict es => by rw [inspect, isOk_map, isOk_inspectEntries es, fits]
  | null | bool _ | float _ | text _ | bytes _ | buffer _ | scheme _ | purpose _ => rfl

/-- The values of a row are inspected one by one. -/
theorem isOk_inspectAll : ∀ vs, (inspectAll vs).isOk = fitAll vs
  | [] => rfl
  | v :: vs => by rw [inspectAll, isOk_bind_bind, isOk_inspect v, isOk_inspectAll vs, fitAll]

/-- Of an entry both the key and the value are inspected. -/
theorem isOk_inspectEntries : ∀ es, (inspectEntries es).isOk = fitEntries es
  | [] => rfl
  | (k, v) :: rest => by
    rw [inspectEntries, isOk_bind_bind_bind, isOk_inspect k, isOk_inspect v, isOk_inspectEntries rest, fitEntries]

end

/-- **A value is written for people exactly if it fits.** A fault with one argument is written as this argument. -/
theorem isOk_display : ∀ v, (display v).isOk = fits v
  -- how a fault is written depends on how many arguments it has
  | fault _ [] => rfl
  | fault _ [argument] => by
    rw [display, isOk_display argument, fits, fitAll, fitAll, Bool.and_true]
  | fault _ (v :: w :: vs) => (isOk_map _ _).trans (isOk_inspectAll (v :: w :: vs))
  | int n => isOk_ofInteger n
  | list vs => isOk_inspect (list vs)
  | tuple vs => isOk_inspect (tuple vs)
  | dict es => isOk_inspect (dict es)
  | null | bool _ | float _ | text _ | bytes _ | buffer _ | scheme _ | purpose _ => rfl

/-- A key is written in JSON exactly if it has a name there. -/
theorem isOk_jsonKey (k : Value) : (jsonKey k).isOk = isJsonName k := by
  cases k with
  | int n => exact isOk_ofInteger n
  | _ => rfl

mutual

/-- **A value is written in JSON exactly if it has a form there.** Faults are written as the texts that people see. -/
theorem isOk_json : ∀ v, (json v).isOk = hasJson v
  | int n => isOk_ofInteger n
  | list vs | tuple vs => by rw [json, isOk_map, isOk_jsonAll vs, hasJson]
  | dict es => by rw [json, isOk_map, isOk_jsonEntries es, hasJson]
  -- JSON has no form for a fault, so its text for people is quoted there
  | fault kind vs => by
    change ((display (fault kind vs)).map Text.escaped).isOk = fits (fault kind vs)
    rw [isOk_map, isOk_display]
  | null | bool _ | float _ | text _ | bytes _ | buffer _ | scheme _ | purpose _ => rfl

theorem isOk_jsonAll : ∀ vs, (jsonAll vs).isOk = haveJson vs
  | [] => rfl
  | v :: vs => by rw [jsonAll, isOk_bind_bind, isOk_json v, isOk_jsonAll vs, haveJson]

theorem isOk_jsonEntries : ∀ es, (jsonEntries es).isOk = entriesHaveJson es
  | [] => rfl
  | (k, v) :: rest => by
    rw [jsonEntries, isOk_bind_bind_bind, isOk_jsonKey, isOk_json v, isOk_jsonEntries rest, entriesHaveJson]

end

mutual

/-- **Ordinary values**: constants, integers that fit, texts and octets, and what is built from them as sequences and
dictionaries. The keys of these are texts, integers that fit, truth values or null. -/
def isOrdinary : Value → Bool
  | null | bool _ | text _ | bytes _ => true
  | int n => Decimal.inBounds n
  | list vs | tuple vs => areOrdinary vs
  | dict es => haveOrdinary es
  | _ => false

/-- Whether values are ordinary. -/
def areOrdinary : List Value → Bool
  | [] => true
  | v :: vs => isOrdinary v && areOrdinary vs

/-- Whether the keys and values of entries are ordinary. -/
def haveOrdinary : List (Value × Value) → Bool
  | [] => true
  | (k, v) :: rest => isOrdinaryKey k && isOrdinary v && haveOrdinary rest

/-- Whether a key is ordinary. -/
def isOrdinaryKey : Value → Bool
  | null | bool _ | text _ => true
  | int n => Decimal.inBounds n
  | _ => false

end

/-- Ordinary keys can be written, as values and as names. -/
theorem fits_of_isOrdinaryKey {k : Value} (h : isOrdinaryKey k = true) : fits k = true ∧ isJsonName k = true := by
  cases k with
  | null => exact ⟨rfl, rfl⟩
  | bool => exact ⟨rfl, rfl⟩
  | text => exact ⟨rfl, rfl⟩
  | int n => exact ⟨h, h⟩
  | _ => exact nomatch h

mutual

/-- Ordinary values can be written. -/
theorem fits_of_isOrdinary : ∀ v, isOrdinary v = true → fits v = true ∧ hasJson v = true
  | null | bool _ | text _ | bytes _ => fun _ => ⟨rfl, rfl⟩
  | int _ => fun h => ⟨h, h⟩
  | list vs | tuple vs => fitAll_of_areOrdinary vs
  | dict es => fitEntries_of_haveOrdinary es
  | float _ | buffer _ | scheme _ | purpose _ | fault .. => nofun

/-- Rows of ordinary values have all of these texts. -/
theorem fitAll_of_areOrdinary : ∀ vs, areOrdinary vs = true → fitAll vs = true ∧ haveJson vs = true
  | [] => fun _ => ⟨rfl, rfl⟩
  | v :: vs => fun h => by
    obtain ⟨hv, hvs⟩ := Bool.and_eq_true_iff.mp h
    -- one walk shows both: that the row is written for people, and that it is written in JSON
    obtain ⟨hfits, hjson⟩ := fits_of_isOrdinary v hv
    obtain ⟨hfitAll, hhaveJson⟩ := fitAll_of_areOrdinary vs hvs
    exact ⟨Bool.and_eq_true_iff.mpr ⟨hfits, hfitAll⟩, Bool.and_eq_true_iff.mpr ⟨hjson, hhaveJson⟩⟩

/-- Entries whose keys and values are ordinary have all of these texts. -/
theorem fitEntries_of_haveOrdinary : ∀ es, haveOrdinary es = true → fitEntries es = true ∧ entriesHaveJson es = true
  | [] => fun _ => ⟨rfl, rfl⟩
  | (k, v) :: rest => fun h => by
    obtain ⟨hentry, hrest⟩ := Bool.and_eq_true_iff.mp h
    obtain ⟨hk, hv⟩ := Bool.and_eq_true_iff.mp hentry
    -- a key counts twice, as a value for people and as a name in JSON
    obtain ⟨hkey, hname⟩ := fits_of_isOrdinaryKey hk
    obtain ⟨hfits, hjson⟩ := fits_of_isOrdinary v hv
    obtain ⟨hfitRest, hjsonRest⟩ := fitEntries_of_haveOrdinary rest hrest
    rw [fitEntries, entriesHaveJson, hkey, hfits, hfitRest, hname, hjson, hjsonRest]
    exact ⟨rfl, rfl⟩

end

end Value

end Shroud
