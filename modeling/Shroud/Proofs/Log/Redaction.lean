import Mathlib.Data.List.Forall2
import Shroud.Proofs.Log.Blanking

/-!
# What fields are masked to

Masking is described by what stands for what. `Mask.MaskedTo` has one rule for each kind of value: a dictionary is
masked entry by entry, octets are replaced by their number, and everything else stands for itself. An entry, and a field
of a line, is replaced whatever it holds if its name has a sensitive word in it (`Mask.IsSensitiveName`), and keeps its
name either way.

Where the keys of all dictionaries are texts, masking gives the fields that these rules tell, and masking them once more
changes nothing (`Mask.fields_masked_once`). Masking makes new fields and reads those that it is given, so there is
nothing to say about what becomes of the latter.
-/

namespace Shroud

/-- A text occurs in another if it is a stretch of it. -/
theorem Text.occursIn_iff_infix (part cs : List Char) : Text.occursIn part cs = true ↔ part <:+: cs := by
  induction cs with
  | nil => rw [Text.occursIn, List.isEmpty_iff, List.infix_nil]
  | cons c cs ih => rw [Text.occursIn, Bool.or_eq_true, List.isPrefixOf_iff_prefix, ih, List.infix_cons_iff]

namespace Mask

/-! ### Sensitive names -/

/-- **A sensitive name**: one that has a sensitive word somewhere in it, in any case. -/
def IsSensitiveName (name : String) : Prop :=
  ∃ word ∈ sensitiveWords, word.toList <:+: (Text.lower name).toList

/-- **The check of a name is the rule for it.** -/
theorem isSensitive_iff (name : String) : isSensitive name = true ↔ IsSensitiveName name := by
  unfold isSensitive IsSensitiveName Text.occurs
  simp only [List.any_eq_true, Text.occursIn_iff_infix]

theorem isSensitive_eq_false_iff (name : String) : isSensitive name = false ↔ ¬IsSensitiveName name := by
  rw [← isSensitive_iff, Bool.not_eq_true]

/-- A key has a name if it is a text. -/
theorem keyName_eq_ok_iff {k : Value} {name : String} : keyName k = .ok name ↔ k.text? = some name := by
  cases k with
  | text s => exact ⟨fun h => congrArg some (Except.ok.inj h), fun h => congrArg _ (Option.some.inj h)⟩
  | scheme s => exact ⟨fun h => congrArg some (Except.ok.inj h), fun h => congrArg _ (Option.some.inj h)⟩
  | _ => exact ⟨nofun, nofun⟩

/-! ### The rules -/

/-- Whether masking has nothing to do in a value. -/
def standsForItself : Value → Bool
  | .dict _ | .bytes _ | .buffer _ => false
  | _ => true

mutual

/-- **What a value is masked to** that does not stand under a sensitive name. -/
inductive MaskedTo : Value → Value → Prop where
  | dict {es shown : List (Value × Value)} (h : EntriesMaskedTo es shown) : MaskedTo (.dict es) (.dict shown)
  | bytes (bs : Bytes) : MaskedTo (.bytes bs) (summary bs)
  | buffer (bs : Bytes) : MaskedTo (.buffer bs) (summary bs)
  | itself {v : Value} (h : standsForItself v = true) : MaskedTo v v

/-- **What the entries of a dictionary are masked to.** Their keys are texts. -/
inductive EntriesMaskedTo : List (Value × Value) → List (Value × Value) → Prop where
  | nil : EntriesMaskedTo [] []
  | hidden {k v : Value} {name : String} {rest shown : List (Value × Value)} (hkey : k.text? = some name)
      (hname : IsSensitiveName name) (hrest : EntriesMaskedTo rest shown) :
      EntriesMaskedTo ((k, v) :: rest) ((k, redacted) :: shown)
  | visible {k v w : Value} {name : String} {rest shown : List (Value × Value)} (hkey : k.text? = some name)
      (hname : ¬IsSensitiveName name) (hv : MaskedTo v w) (hrest : EntriesMaskedTo rest shown) :
      EntriesMaskedTo ((k, v) :: rest) ((k, w) :: shown)

end

/-- **What a field of a line is masked to.** -/
inductive FieldMaskedTo : String × Value → String × Value → Prop where
  | hidden {name : String} {v : Value} (hname : IsSensitiveName name) : FieldMaskedTo (name, v) (name, redacted)
  | visible {name : String} {v w : Value} (hname : ¬IsSensitiveName name) (hv : MaskedTo v w) :
      FieldMaskedTo (name, v) (name, w)

/-! ### Masking follows the rules -/

/-- What stands for the value of an entry is decided by the name of its key. -/
theorem shownUnder_eq_ok_iff {k v w : Value} :
    shownUnder k v = .ok w ↔ ∃ name, k.text? = some name
      ∧ (IsSensitiveName name ∧ w = redacted ∨ ¬IsSensitiveName name ∧ value v = .ok w) := by
  rw [shownUnder, bind_eq_ok_iff]
  simp only [keyName_eq_ok_iff, shown]
  refine exists_congr fun name => and_congr_right fun _ => ?_
  by_cases hname : IsSensitiveName name
  · rw [if_pos ((isSensitive_iff name).mpr hname)]
    simp [hname, eq_comm]
  · rw [(isSensitive_eq_false_iff name).mpr hname, if_neg Bool.false_ne_true]
    simp [hname]

/-- Entries are masked if the first one is and the others are. -/
theorem entries_cons_eq_ok_iff {k v : Value} {rest shown : List (Value × Value)} :
    entries ((k, v) :: rest) = .ok shown
      ↔ ∃ w others, shownUnder k v = .ok w ∧ entries rest = .ok others ∧ (k, w) :: others = shown := by
  rw [entries_cons]
  simp only [bind_eq_ok_iff, pure_eq_ok_iff]
  exact ⟨fun ⟨w, hw, others, h⟩ => ⟨w, others, hw, h⟩, fun ⟨w, others, hw, h⟩ => ⟨w, hw, others, h⟩⟩

mutual

/-- Masking a value gives what the rules say. -/
theorem value_eq_ok_iff : ∀ v w, value v = .ok w ↔ MaskedTo v w
  | .dict es, w => by
    rw [value, map_eq_ok_iff]
    constructor
    · rintro ⟨shown, hshown, rfl⟩
      exact .dict ((entries_eq_ok_iff es shown).mp hshown)
    · intro h
      cases h with
      | dict h => exact ⟨_, (entries_eq_ok_iff es _).mpr h, rfl⟩
      -- a dictionary is not left as it is
      | itself h => exact Bool.noConfusion h
  -- octets have one summary, and nothing else stands for them
  | .bytes bs, w => by
    constructor
    · intro h
      obtain rfl := Except.ok.inj h
      exact .bytes bs
    · intro h
      cases h with
      | bytes => rfl
      | itself h => exact Bool.noConfusion h
  | .buffer bs, w => by
    constructor
    · intro h
      obtain rfl := Except.ok.inj h
      exact .buffer bs
    · intro h
      cases h with
      | buffer => rfl
      | itself h => exact Bool.noConfusion h
  -- everything else is left as it is, sequences too
  | .null, w | .bool _, w | .int _, w | .float _, w | .text _, w | .list _, w | .tuple _, w | .scheme _, w
  | .purpose _, w | .fault .., w => by
    constructor
    · intro h
      obtain rfl := Except.ok.inj h
      exact .itself rfl
    · intro h
      cases h
      rfl

/-- The same of entries. -/
theorem entries_eq_ok_iff : ∀ es shown, entries es = .ok shown ↔ EntriesMaskedTo es shown
  | [], shown => by
    constructor
    · intro h
      obtain rfl := Except.ok.inj h
      exact .nil
    · intro h
      cases h
      rfl
  | (k, v) :: rest, shown => by
    rw [entries_cons_eq_ok_iff]
    constructor
    · rintro ⟨w, others, hw, hothers, rfl⟩
      have hrest := (entries_eq_ok_iff rest others).mp hothers
      -- the rule of the first entry is the one that its name asks for
      obtain ⟨name, hkey, ⟨hname, rfl⟩ | ⟨hname, hv⟩⟩ := shownUnder_eq_ok_iff.mp hw
      · exact .hidden hkey hname hrest
      · exact .visible hkey hname ((value_eq_ok_iff v w).mp hv) hrest
    · intro h
      cases h with
      -- each rule is one of the two cases of the name
      | hidden hkey hname hrest =>
        exact ⟨_, _, shownUnder_eq_ok_iff.mpr ⟨_, hkey, .inl ⟨hname, rfl⟩⟩, (entries_eq_ok_iff rest _).mpr hrest, rfl⟩
      | visible hkey hname hv hrest =>
        have hv := (value_eq_ok_iff v _).mpr hv
        exact ⟨_, _, shownUnder_eq_ok_iff.mpr ⟨_, hkey, .inr ⟨hname, hv⟩⟩, (entries_eq_ok_iff rest _).mpr hrest, rfl⟩

end

/-- Fields are masked if the first one is and the others are. -/
theorem fields_cons_eq_ok_iff {name : String} {v : Value} {rest masked : Fields} :
    fields ((name, v) :: rest) = .ok masked
      ↔ ∃ w others, shown name v = .ok w ∧ fields rest = .ok others ∧ (name, w) :: others = masked := by
  rw [fields_cons]
  simp only [bind_eq_ok_iff, pure_eq_ok_iff]
  exact ⟨fun ⟨w, hw, others, h⟩ => ⟨w, others, hw, h⟩, fun ⟨w, others, hw, h⟩ => ⟨w, hw, others, h⟩⟩

/-- What stands for a field is decided by its name. -/
theorem shown_eq_ok_iff {name : String} {v w : Value} :
    shown name v = .ok w ↔ FieldMaskedTo (name, v) (name, w) := by
  rw [shown]
  -- the two rules for fields exclude each other by the name
  by_cases hname : IsSensitiveName name
  · rw [if_pos ((isSensitive_iff name).mpr hname)]
    constructor
    · intro h
      obtain rfl := Except.ok.inj h
      exact .hidden hname
    · intro h
      cases h with
      | hidden => rfl
      | visible hplain => exact absurd hname hplain
  · rw [(isSensitive_eq_false_iff name).mpr hname, if_neg Bool.false_ne_true, value_eq_ok_iff]
    constructor
    · exact .visible hname
    · intro h
      cases h with
      | hidden hsensitive => exact absurd hsensitive hname
      | visible _ hv => exact hv

/-- Masking the fields of a line gives what the rules say, field by field. -/
theorem fields_eq_ok_iff {fs masked : Fields} : fields fs = .ok masked ↔ List.Forall₂ FieldMaskedTo fs masked := by
  induction fs generalizing masked with
  | nil =>
    rw [List.forall₂_nil_left_iff]
    constructor
    · intro h
      exact (Except.ok.inj h).symm
    · rintro rfl
      rfl
  | cons field rest ih =>
    obtain ⟨name, v⟩ := field
    rw [fields_cons_eq_ok_iff, List.forall₂_cons_left_iff]
    constructor
    · rintro ⟨w, others, hw, hothers, rfl⟩
      exact ⟨(name, w), others, shown_eq_ok_iff.mp hw, ih.mp hothers, rfl⟩
    · rintro ⟨⟨name', w⟩, others, hfield, hothers, rfl⟩
      -- a field keeps its name under both rules
      obtain rfl : name' = name := by cases hfield <;> rfl
      exact ⟨w, others, shown_eq_ok_iff.mpr hfield, ih.mpr hothers, rfl⟩

/-! ### What is masked stays as it is -/

mutual

/-- What a value is masked to is masked to itself. -/
theorem MaskedTo.again {v w : Value} : MaskedTo v w → MaskedTo w w
  | .dict h => .dict h.again
  | .bytes _ => .itself rfl
  | .buffer _ => .itself rfl
  | .itself h => .itself h

/-- The same of entries: what is hidden stays hidden under the same name. -/
theorem EntriesMaskedTo.again {es masked : List (Value × Value)} :
    EntriesMaskedTo es masked → EntriesMaskedTo masked masked
  | .nil => .nil
  | .hidden hkey hname hrest => .hidden hkey hname hrest.again
  | .visible hkey hname hv hrest => .visible hkey hname hv.again hrest.again

end

/-- The same of a field. -/
theorem FieldMaskedTo.again {field shown : String × Value} (h : FieldMaskedTo field shown) :
    FieldMaskedTo shown shown := by
  cases h with
  | hidden hname => exact .hidden hname
  | visible hname hv => exact .visible hname hv.again

/-! ### What can be masked -/

mutual

/-- Whether the keys are texts on every level of dictionaries in a value. -/
def hasTextKeys : Value → Bool
  | .dict es => haveTextKeys es
  | _ => true

/-- Whether the keys of entries are texts, and those on every level of dictionaries in them. -/
def haveTextKeys : List (Value × Value) → Bool
  | [] => true
  | (k, v) :: rest => (k.text?.isSome && hasTextKeys v) && haveTextKeys rest

end

mutual

/-- A value with texts for keys can be masked. -/
theorem exists_maskedTo : ∀ v, hasTextKeys v = true → ∃ w, MaskedTo v w
  | .dict es, h => by
    obtain ⟨masked, hmasked⟩ := exists_entriesMaskedTo es h
    exact ⟨_, .dict hmasked⟩
  | .bytes bs, _ => ⟨_, .bytes bs⟩
  | .buffer bs, _ => ⟨_, .buffer bs⟩
  | .null, _ | .bool _, _ | .int _, _ | .float _, _ | .text _, _ | .list _, _ | .tuple _, _ | .scheme _, _
  | .purpose _, _ | .fault .., _ => ⟨_, .itself rfl⟩

/-- Entries with texts for keys can be masked. -/
theorem exists_entriesMaskedTo : ∀ es, haveTextKeys es = true → ∃ masked, EntriesMaskedTo es masked
  | [], _ => ⟨[], .nil⟩
  | (k, v) :: rest, h => by
    obtain ⟨hentry, hrest⟩ := Bool.and_eq_true_iff.mp h
    obtain ⟨hkey, hv⟩ := Bool.and_eq_true_iff.mp hentry
    obtain ⟨name, hkey⟩ := Option.isSome_iff_exists.mp hkey
    obtain ⟨masked, hmasked⟩ := exists_entriesMaskedTo rest hrest
    -- a hidden value may be anything
    by_cases hname : IsSensitiveName name
    · exact ⟨_, .hidden hkey hname hmasked⟩
    · obtain ⟨w, hw⟩ := exists_maskedTo v hv
      exact ⟨_, .visible hkey hname hw hmasked⟩

end

/-- **Fields can be masked**, whatever their names are. -/
theorem exists_fields {fs : Fields} (h : ∀ field ∈ fs, hasTextKeys field.2 = true) :
    ∃ masked, List.Forall₂ FieldMaskedTo fs masked := by
  induction fs with
  | nil => exact ⟨[], .nil⟩
  | cons field rest ih =>
    obtain ⟨name, v⟩ := field
    obtain ⟨hv, hrest⟩ := List.forall_mem_cons.mp h
    obtain ⟨masked, hmasked⟩ := ih hrest
    by_cases hname : IsSensitiveName name
    · exact ⟨_, .cons (.hidden hname) hmasked⟩
    · obtain ⟨w, hw⟩ := exists_maskedTo v hv
      exact ⟨_, .cons (.visible hname hw) hmasked⟩

/-- **Masking gives what the rules say, and changes it no further.** The names are those of the fields, in their order.
A field with a sensitive name is redacted whatever it holds. Of the others dictionaries are masked in the same way on
every level, octets are replaced by their number, and everything else stays. -/
theorem fields_masked_once {fs : Fields} (h : ∀ field ∈ fs, hasTextKeys field.2 = true) :
    ∃ masked, fields fs = .ok masked ∧ List.Forall₂ FieldMaskedTo fs masked
      ∧ masked.map Prod.fst = fs.map Prod.fst ∧ fields masked = .ok masked := by
  obtain ⟨masked, hmasked⟩ := exists_fields h
  have hfields : fields fs = .ok masked := fields_eq_ok_iff.mpr hmasked
  have hagain : List.Forall₂ FieldMaskedTo masked masked := by
    clear hfields
    induction hmasked with
    | nil => exact .nil
    | cons hfield _ ih => exact .cons hfield.again (ih (List.forall_mem_cons.mp h).2)
  exact ⟨masked, hfields, hmasked, map_fst_of_fields_eq_ok hfields, fields_eq_ok_iff.mpr hagain⟩

/-- A sensitive name inside a dictionary, octets beside it, and a dictionary under a name that is sensitive by the
Kelvin sign. -/
theorem fields_masked_once_kelvin_sign :
    let fs : Fields :=
      [("item", .dict [(.text "PassWord", .int 7), (.text "inner", .dict [(.text "data", .bytes [1, 2, 3])])]),
        ("\u212aeys", .dict [(.text "a", .null)])]
    (∀ field ∈ fs, hasTextKeys field.2 = true)
      ∧ ∃ masked, fields fs = .ok masked ∧ List.Forall₂ FieldMaskedTo fs masked
        ∧ masked.map Prod.fst = ["item", "\u212aeys"] ∧ fields masked = .ok masked := by
  intro fs
  have hkeys : ∀ field ∈ fs, hasTextKeys field.2 = true := by decide +kernel
  exact ⟨hkeys, fields_masked_once hkeys⟩

end Mask

end Shroud
