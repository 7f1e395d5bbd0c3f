import Shroud.Log.Format
import Shroud.Proofs.Results

/-!
# Entries of a line

The JSON object of a line has the entries that every line has, the operation among them, then the fields of the line,
and last what no field can set. An entry takes the place of an earlier one with its name. So a line whose fields have
other names carries its operation as it is (`LogFormat.lookup_jsonEntries`).

The line for people shows the start of the operation's identifier in front of the message, and nothing of its name
(`LogFormat.beforeMessage`, `LogFormat.asHuman_eq_ok_iff`).

Not every line can be written: a field may hold what has no text. A line whose fields are only texts and doubles can be
written in every format (`LogFormat.exists_render`).
-/

namespace Shroud

/-! ### Associations -/

/-- Setting an entry changes what lies under its name only. -/
theorem Assoc.lookup_set {α : Type} (key name : String) (value : α) (entries : List (String × α)) :
    (Assoc.set (· == ·) key value entries).lookup name
      = if name = key then some value else entries.lookup name := by
  induction entries with
  | nil =>
    by_cases hname : name = key
    · simp [Assoc.set, hname]
    · simp [Assoc.set, hname, List.lookup_cons, beq_eq_false_iff_ne.mpr hname]
  | cons entry rest ih =>
    obtain ⟨k, v⟩ := entry
    -- the search ends at the name that is set, or the entry is passed over on both sides
    by_cases hkey : k = key
    · subst hkey
      by_cases hname : name = k
      · simp [Assoc.set, hname]
      · simp [Assoc.set, hname, List.lookup_cons, beq_eq_false_iff_ne.mpr hname]
    · have hset : Assoc.set (· == ·) key value ((k, v) :: rest)
          = (k, v) :: Assoc.set (· == ·) key value rest := by simp [Assoc.set, hkey]
      rw [hset, List.lookup_cons, List.lookup_cons, ih]
      by_cases hname : name = k
      · subst hname
        simp [hkey]
      · simp [beq_eq_false_iff_ne.mpr hname]

/-- What holds of every value and of the one that is set holds of every value afterwards. -/
theorem Assoc.forall_mem_set {α : Type} {P : α → Prop} {key : String} {value : α} (hvalue : P value)
    {entries : List (String × α)} (h : ∀ entry ∈ entries, P entry.2) :
    ∀ entry ∈ Assoc.set (· == ·) key value entries, P entry.2 := by
  induction entries with
  | nil =>
    intro entry hentry
    rw [List.mem_singleton.mp hentry]
    exact hvalue
  | cons first rest ih =>
    obtain ⟨k, v⟩ := first
    obtain ⟨hfirst, hrest⟩ := List.forall_mem_cons.mp h
    rw [Assoc.set]
    split
    · exact List.forall_mem_cons.mpr ⟨hvalue, hrest⟩
    · exact List.forall_mem_cons.mpr ⟨hfirst, ih hrest⟩

/-- An entry keeps the place of its name, or comes last under a new one. -/
theorem Assoc.map_fst_set {α : Type} (key : String) (value : α) (entries : List (String × α)) :
    (Assoc.set (· == ·) key value entries).map Prod.fst
      = if key ∈ entries.map Prod.fst then entries.map Prod.fst else entries.map Prod.fst ++ [key] := by
  induction entries with
  | nil => rfl
  | cons entry rest ih =>
    obtain ⟨k, v⟩ := entry
    by_cases hkey : k = key
    · subst hkey
      simp [Assoc.set]
    · -- an entry of another name stays where it is
      have hset : Assoc.set (· == ·) key value ((k, v) :: rest)
          = (k, v) :: Assoc.set (· == ·) key value rest := by simp [Assoc.set, hkey]
      rw [hset, List.map_cons, ih, List.map_cons]
      by_cases hrest : key ∈ rest.map Prod.fst
      · rw [if_pos hrest, if_pos (List.mem_cons_of_mem k hrest)]
      · have hnew : key ∉ k :: rest.map Prod.fst := fun h =>
          (List.mem_cons.mp h).elim (fun hfirst => hkey hfirst.symm) hrest
        rw [if_neg hrest, if_neg hnew, List.cons_append]

/-- Setting an entry keeps the names different. -/
theorem Assoc.nodup_set {α : Type} (key : String) (value : α) {entries : List (String × α)}
    (h : (entries.map Prod.fst).Nodup) : ((Assoc.set (· == ·) key value entries).map Prod.fst).Nodup := by
  rw [Assoc.map_fst_set]
  split
  · exact h
  · next hkey =>
    refine List.nodup_append.mpr ⟨h, List.pairwise_singleton _ _, fun name hname other hother => ?_⟩
    rintro rfl
    exact hkey (List.mem_singleton.mp hother ▸ hname)

/-- Under names of their own, entries are what lies under their names. -/
theorem Assoc.mem_iff_lookup {α : Type} {entries : List (String × α)} (h : (entries.map Prod.fst).Nodup)
    {name : String} {value : α} : (name, value) ∈ entries ↔ entries.lookup name = some value := by
  induction entries with
  | nil => exact iff_of_false List.not_mem_nil nofun
  | cons entry rest ih =>
    obtain ⟨k, v⟩ := entry
    obtain ⟨hk, hrest⟩ := List.nodup_cons.mp h
    rw [List.mem_cons, Prod.mk.injEq, ih hrest, List.lookup_cons]
    by_cases hname : name = k
    · subst hname
      -- the first entry of a name is the only one
      have hnone : rest.lookup name ≠ some value := fun hsome =>
        hk (List.mem_map.mpr ⟨(name, value), (ih hrest).mpr hsome, rfl⟩)
      simp [hnone, eq_comm]
    · simp [hname, beq_eq_false_iff_ne.mpr hname]

/-! ### Masked fields -/

namespace Mask

/-- What stands for the value under a name. -/
def shown (name : String) (v : Value) : Except RenderFault Value :=
  if isSensitive name then .ok redacted else value v

/-- Fields are masked one by one. -/
theorem fields_cons (name : String) (v : Value) (rest : Fields) :
    fields ((name, v) :: rest) = do
      let first ← shown name v
      let others ← fields rest
      return (name, first) :: others := by
  rw [fields, shown]
  split <;> rfl

/-- Masking changes values only. -/
theorem map_fst_of_fields_eq_ok {fs masked : Fields} (h : fields fs = .ok masked) :
    masked.map Prod.fst = fs.map Prod.fst := by
  induction fs generalizing masked with
  | nil =>
    obtain rfl := Except.ok.inj h
    rfl
  | cons field rest ih =>
    obtain ⟨name, v⟩ := field
    rw [fields_cons] at h
    obtain ⟨first, -, h⟩ := bind_eq_ok_iff.mp h
    obtain ⟨others, hothers, h⟩ := bind_eq_ok_iff.mp h
    obtain rfl := Except.ok.inj h
    rw [List.map_cons, List.map_cons, ih hothers]

/-- Masking neither adds nor removes a name. -/
theorem lookup_eq_none_iff {fs masked : Fields} (h : fields fs = .ok masked) {name : String} :
    masked.lookup name = none ↔ fs.lookup name = none := by
  -- an entry is not found if its name is not there
  have hnames : ∀ entries : Fields, entries.lookup name = none ↔ name ∉ entries.map Prod.fst := by
    intro entries
    rw [List.lookup_eq_none_iff, List.mem_map]
    constructor
    · rintro hnone ⟨entry, hentry, rfl⟩
      exact absurd rfl (bne_iff_ne.mp (hnone entry hentry))
    · intro hnone entry hentry
      exact bne_iff_ne.mpr fun heq => hnone ⟨entry, hentry, heq.symm⟩
  rw [hnames, hnames, map_fst_of_fields_eq_ok h]

end Mask

/-- A text or a double. -/
inductive Value.IsSimple : Value → Prop where
  | text (s : String) : IsSimple (.text s)
  | float (bits : UInt64) : IsSimple (.float bits)

namespace Value.IsSimple

theorem exists_json {v : Value} (h : v.IsSimple) : ∃ text, v.json = .ok text := by
  cases h with
  | text s => exact ⟨_, rfl⟩
  | float bits => exact ⟨_, rfl⟩

theorem exists_display {v : Value} (h : v.IsSimple) : ∃ text, v.display = .ok text := by
  cases h with
  | text s => exact ⟨_, rfl⟩
  | float bits => exact ⟨_, rfl⟩

end Value.IsSimple

namespace Mask

/-- Of simple fields simple ones are left, since a sensitive field is replaced by a text. -/
theorem exists_fields_of_isSimple {fs : Fields} (h : ∀ field ∈ fs, field.2.IsSimple) :
    ∃ masked, fields fs = .ok masked ∧ ∀ field ∈ masked, field.2.IsSimple := by
  induction fs with
  | nil => exact ⟨[], rfl, fun _ hfield => absurd hfield List.not_mem_nil⟩
  | cons field rest ih =>
    obtain ⟨name, v⟩ := field
    obtain ⟨hv, hrest⟩ := List.forall_mem_cons.mp h
    obtain ⟨masked, hmasked, hsimple⟩ := ih hrest
    -- redacted or not, a simple value stays simple
    have hfirst : ∃ first, shown name v = .ok first ∧ first.IsSimple := by
      by_cases hsensitive : isSensitive name
      · exact ⟨redacted, if_pos hsensitive, .text _⟩
      · refine ⟨v, ?_, hv⟩
        rw [shown, if_neg hsensitive]
        cases hv <;> rfl
    obtain ⟨first, hfirst, hsimpleFirst⟩ := hfirst
    refine ⟨(name, first) :: masked, ?_, List.forall_mem_cons.mpr ⟨hsimpleFirst, hsimple⟩⟩
    rw [fields_cons, hfirst, hmasked]
    rfl

end Mask

/-! ### Entries of the JSON object -/

namespace LogFormat

/-- Entries under other names leave an entry as it is. -/
theorem lookup_withEntries {name : String} {entries : Fields} (h : entries.lookup name = none) (start : Fields) :
    (withEntries start entries).lookup name = start.lookup name := by
  induction entries generalizing start with
  | nil => rfl
  | cons entry rest ih =>
    obtain ⟨other, v⟩ := entry
    rw [List.lookup_eq_none_iff] at h
    obtain ⟨hother, hrest⟩ := List.forall_mem_cons.mp h
    -- no entry sets this name
    have hne : name ≠ other := by simpa using hother
    change (withEntries (Assoc.set (· == ·) other v start) rest).lookup name = _
    rw [ih (List.lookup_eq_none_iff.mpr hrest), Assoc.lookup_set, if_neg hne]

/-- What holds of both rows of entries holds of the row made of them. -/
theorem forall_mem_withEntries {P : Value → Prop} {start entries : Fields} (hstart : ∀ entry ∈ start, P entry.2)
    (hentries : ∀ entry ∈ entries, P entry.2) : ∀ entry ∈ withEntries start entries, P entry.2 := by
  induction entries generalizing start with
  | nil => exact hstart
  | cons entry rest ih =>
    obtain ⟨hentry, hrest⟩ := List.forall_mem_cons.mp hentries
    exact ih (Assoc.forall_mem_set hentry hstart) hrest

/-- Entries that are set one by one have different names. -/
theorem nodup_withEntries {start : Fields} (h : (start.map Prod.fst).Nodup) (entries : Fields) :
    ((withEntries start entries).map Prod.fst).Nodup := by
  induction entries generalizing start with
  | nil => exact h
  | cons entry rest ih => exact ih (Assoc.nodup_set entry.1 entry.2 h)

theorem nodup_headEntries (now : Moment) (operation : Option Operation) (r : Record) (message : String) :
    ((headEntries now operation r message).map Prod.fst).Nodup := by
  cases operation with
  | none => simp [headEntries]
  | some o =>
    simp only [headEntries, entryOfText]
    cases o.id.isEmpty <;> cases o.name.isEmpty <;> simp

/-- **The entries of a line have names of their own.** -/
theorem nodup_jsonEntries {now : Moment} {operation : Option Operation} {r : Record} {entries : Fields}
    (h : jsonEntries now operation r = .ok entries) : (entries.map Prod.fst).Nodup := by
  obtain ⟨message, -, h⟩ := bind_eq_ok_iff.mp h
  obtain ⟨masked, -, h⟩ := bind_eq_ok_iff.mp h
  obtain rfl := Except.ok.inj h
  exact nodup_withEntries (nodup_withEntries (nodup_headEntries now operation r message) masked) (tailEntries r)

/-- The names under which a line carries its operation. -/
def operationFields : List String :=
  ["operation_id", "operation"]

/-- **A line carries its operation** in JSON, as long as its own fields have other names. -/
theorem lookup_jsonEntries {now : Moment} {operation : Option Operation} {r : Record} {entries : Fields}
    (hplain : ∀ name ∈ operationFields, r.fields.lookup name = none)
    (hnamed : ∀ o, operation = some o → o.id ≠ "" ∧ o.name ≠ "")
    (h : jsonEntries now operation r = .ok entries) :
    entries.lookup "operation_id" = operation.map (Value.text ·.id)
      ∧ entries.lookup "operation" = operation.map (Value.text ·.name) := by
  obtain ⟨message, -, h⟩ := bind_eq_ok_iff.mp h
  obtain ⟨masked, hmasked, h⟩ := bind_eq_ok_iff.mp h
  obtain rfl := Except.ok.inj h
  -- neither the fields nor what comes after them has one of the names
  have hhead : ∀ name ∈ operationFields,
      (withEntries (withEntries (headEntries now operation r message) masked) (tailEntries r)).lookup name
        = (headEntries now operation r message).lookup name := by
    intro name hname
    have hfields : masked.lookup name = none := by
      rw [Mask.lookup_eq_none_iff hmasked]
      exact hplain name hname
    have htail : (tailEntries r).lookup name = none := by
      simp only [operationFields, List.mem_cons, List.not_mem_nil, or_false] at hname
      have hsource : List.lookup name (if sourceLevel ≤ r.level then [("source", r.source)] else []) = none := by
        obtain rfl | rfl := hname <;> split <;> rfl
      unfold tailEntries
      rw [List.lookup_append, hsource, Option.or_none]
      obtain rfl | rfl := hname <;> cases r.incident <;> rfl
    rw [lookup_withEntries htail, lookup_withEntries hfields]
  rw [hhead _ (by decide), hhead _ (by decide)]
  cases operation with
  | none => exact ⟨rfl, rfl⟩
  | some o =>
    obtain ⟨hid, hname⟩ := hnamed o rfl
    have hid : o.id.isEmpty = false := by simpa using hid
    have hname : o.name.isEmpty = false := by simpa using hname
    simp only [headEntries, entryOfText, hid, hname, Bool.false_eq_true, if_false]
    exact ⟨rfl, rfl⟩

/-! ### Lines for people -/

/-- What stands before the message in a line for people. -/
def beforeMessage (now : Moment) (operation : Option Operation) (r : Record) : String :=
  (colours.lookup (Level.name r.level)).getD "" ++ now.timeOfDay ++ " "
    ++ String.ofList ((Level.name r.level).toList.take 4) ++ plainColour ++ " [" ++ r.logger ++ "] "
    ++ operationMark operation

/-- **The line for people** is made of what stands before the message, the message, and what stands behind it. -/
theorem asHuman_eq_ok_iff {now : Moment} {operation : Option Operation} {r : Record} {line : String} :
    asHuman now operation r = .ok line ↔ ∃ text message, fieldText r.fields = .ok text
      ∧ Template.render r.template r.arguments = .ok message
      ∧ beforeMessage now operation r ++ message ++ text ++ incidentText r = line := by
  simp only [asHuman, bind_eq_ok_iff, pure_eq_ok_iff]
  constructor
  · rintro ⟨text, htext, message, hmessage, hline⟩
    exact ⟨text, message, htext, hmessage, hline⟩
  · rintro ⟨text, message, htext, hmessage, hline⟩
    exact ⟨text, htext, message, hmessage, hline⟩

/-! ### Lines that can be written -/

/-- Entries of simple values are written in JSON. -/
theorem exists_jsonEntries {entries : Fields} (h : ∀ entry ∈ entries, entry.2.IsSimple) :
    ∃ texts, Value.jsonEntries (entries.map fun (name, v) => (.text name, v)) = .ok texts := by
  induction entries with
  | nil => exact ⟨[], rfl⟩
  | cons entry rest ih =>
    obtain ⟨name, v⟩ := entry
    obtain ⟨hv, hrest⟩ := List.forall_mem_cons.mp h
    obtain ⟨text, htext⟩ := hv.exists_json
    obtain ⟨texts, htexts⟩ := ih hrest
    refine ⟨Value.jsonEntry name text :: texts, ?_⟩
    rw [List.map_cons, Value.jsonEntries, htext, htexts]
    rfl

/-- Entries of simple values are written as assignments. -/
theorem exists_assignments {entries : Fields} (h : ∀ entry ∈ entries, entry.2.IsSimple) :
    ∃ texts, assignments entries = .ok texts := by
  induction entries with
  | nil => exact ⟨[], rfl⟩
  | cons entry rest ih =>
    obtain ⟨name, v⟩ := entry
    obtain ⟨hv, hrest⟩ := List.forall_mem_cons.mp h
    obtain ⟨text, htext⟩ := hv.exists_display
    obtain ⟨texts, htexts⟩ := ih hrest
    refine ⟨(name ++ "=" ++ text) :: texts, ?_⟩
    rw [assignments, htext, htexts]
    rfl

/-- The entries at the head are texts. -/
theorem isSimple_headEntries (now : Moment) (operation : Option Operation) (r : Record) (message : String) :
    ∀ entry ∈ headEntries now operation r message, entry.2.IsSimple := by
  -- a text that is empty is left out
  have htexts : ∀ name text : String, ∀ entry ∈ entryOfText name text, entry.2.IsSimple := by
    intro name text
    unfold entryOfText
    split
    · exact fun _ hentry => absurd hentry List.not_mem_nil
    · exact List.forall_mem_cons.mpr ⟨.text _, fun _ hentry => absurd hentry List.not_mem_nil⟩
  intro entry hentry
  -- four entries that are always there, and two of the operation
  obtain hfirst | hoperation := List.mem_append.mp hentry
  · simp only [List.mem_cons, List.not_mem_nil, or_false] at hfirst
    obtain rfl | rfl | rfl | rfl := hfirst <;> exact .text _
  · cases operation with
    | none => exact absurd hoperation List.not_mem_nil
    | some o =>
      obtain hid | hname := List.mem_append.mp hoperation
      · exact htexts _ _ entry hid
      · exact htexts _ _ entry hname

/-- **A line of texts and doubles can be written** in every format. It has no arguments, no fault, and no place in the
program. -/
theorem exists_render {r : Record} (harguments : r.arguments = []) (hfields : ∀ field ∈ r.fields, field.2.IsSimple)
    (hincident : r.incident = none) (hlevel : r.level < sourceLevel) (format : LogFormat) (now : Moment)
    (operation : Option Operation) : ∃ text, format.render now operation r = .ok text := by
  have hmessage : Template.render r.template r.arguments = .ok r.template := by
    rw [harguments]
    rfl
  obtain ⟨masked, hmasked, hsimple⟩ := Mask.exists_fields_of_isSimple hfields
  -- the message is there in every format, and below the level of the source nothing follows
  cases format with
  | json =>
    have htail : tailEntries r = [] := by
      rw [tailEntries, hincident, if_neg (Int.not_le.mpr hlevel)]
      rfl
    have hentries : jsonEntries now operation r
        = .ok (withEntries (headEntries now operation r r.template) masked) := by
      rw [jsonEntries, hmessage, hmasked, htail]
      rfl
    have hall := forall_mem_withEntries (isSimple_headEntries now operation r r.template) hsimple
    obtain ⟨texts, htexts⟩ := exists_jsonEntries hall
    refine ⟨Value.jsonObject texts, ?_⟩
    change asJson now operation r = _
    rw [asJson, hentries]
    change Value.json (.dict _) = _
    rw [Value.json, htexts]
    rfl
  | human =>
    obtain ⟨texts, htexts⟩ := exists_assignments hsimple
    have htext : ∃ text, fieldText r.fields = .ok text := by
      unfold fieldText
      rw [hmasked]
      change ∃ text, (if r.fields.isEmpty then _ else assignments masked >>= _) = .ok text
      rw [htexts]
      split <;> exact ⟨_, rfl⟩
    obtain ⟨text, htext⟩ := htext
    change ∃ text, asHuman now operation r = .ok text
    rw [asHuman, htext, hmessage]
    exact ⟨_, rfl⟩
  | bare =>
    change ∃ text, asBare r = .ok text
    rw [asBare, hmessage]
    exact ⟨_, rfl⟩

end LogFormat

end Shroud
