import Shroud.Proofs.Log.Fields

/-!
# Entries that a line has of its own

Before the fields of a line are set, its JSON object has entries of its own (`LogFormat.OwnEntry`): the moment, what the
record tells, and the operation that it is written in. After the fields it gets two more (`LogFormat.ClosingEntry`), the
fault and the place in the program.

What is set last counts (`LogFormat.lookup_withEntries_eq`). So a closing entry is there whatever the fields are, while
a field with the name of an own entry takes its place, masked like any other field. That is what
`LogFormat.own_entries_yield_to_fields` says, for every record, operation and moment: a line tells its own moment,
level, logger, message and operation exactly as far as its fields have other names.
-/

namespace Shroud

/-- The value of the last field with a name, which is the one that counts. -/
def Fields.last? (fs : Fields) (name : String) : Option Value :=
  fs.reverse.lookup name

/-- The last value of a name is among the later ones, if it is there. -/
theorem Fields.last?_cons (key name : String) (v : Value) (rest : Fields) :
    Fields.last? ((key, v) :: rest) name = (Fields.last? rest name).or (if name = key then some v else none) := by
  have hlast : List.lookup name [(key, v)] = if name = key then some v else none := by
    by_cases hname : name = key
    · simp [hname]
    · simp [hname, List.lookup_cons, beq_eq_false_iff_ne.mpr hname]
  rw [last?, List.reverse_cons, List.lookup_append, hlast, last?]

/-- Masking keeps which field counts, and shows its value. -/
theorem Mask.last?_cases {fs masked : Fields} (h : fields fs = .ok masked) (name : String) :
    (fs.last? name = none ∧ masked.last? name = none)
      ∨ ∃ v w, fs.last? name = some v ∧ shown name v = .ok w ∧ masked.last? name = some w := by
  induction fs generalizing masked with
  | nil =>
    obtain rfl := Except.ok.inj h
    exact .inl ⟨rfl, rfl⟩
  | cons field rest ih =>
    obtain ⟨key, v⟩ := field
    rw [fields_cons] at h
    obtain ⟨first, hfirst, h⟩ := bind_eq_ok_iff.mp h
    obtain ⟨others, hothers, h⟩ := bind_eq_ok_iff.mp h
    obtain rfl := Except.ok.inj h
    rw [Fields.last?_cons, Fields.last?_cons]
    -- a later field counts before this one
    obtain ⟨hnone, hnone'⟩ | ⟨w, w', hw, hshown, hw'⟩ := ih hothers
    · rw [hnone, hnone', Option.none_or, Option.none_or]
      by_cases hname : name = key
      · subst hname
        rw [if_pos rfl, if_pos rfl]
        exact .inr ⟨v, first, rfl, hfirst, rfl⟩
      · rw [if_neg hname, if_neg hname]
        exact .inl ⟨rfl, rfl⟩
    · rw [hw, hw']
      exact .inr ⟨w, w', rfl, hshown, rfl⟩

namespace LogFormat

/-- **What is set last counts.** -/
theorem lookup_withEntries_eq (start entries : Fields) (name : String) :
    (withEntries start entries).lookup name = (entries.last? name).or (start.lookup name) := by
  induction entries generalizing start with
  | nil => rfl
  | cons entry rest ih =>
    obtain ⟨key, v⟩ := entry
    change (withEntries (Assoc.set (· == ·) key v start) rest).lookup name = _
    rw [ih, Assoc.lookup_set, Fields.last?_cons, Option.or_assoc]
    -- an entry replaces what stands under its name, and leaves all else
    by_cases hname : name = key
    · rw [if_pos hname, if_pos hname, Option.some_or]
    · rw [if_neg hname, if_neg hname, Option.none_or]

/-! ### Own entries and closing entries -/

/-- The entry of a text. There is none of an empty one. -/
def textEntry? (text : String) : Option Value :=
  if text.isEmpty then none else some (.text text)

/-- **What a line tells of its own under a name**, or that it has no entry there: the moment, the record, and the
operation that it is written in. -/
inductive OwnEntry (now : Moment) (operation : Option Operation) (r : Record) (message : String) :
    String → Option Value → Prop where
  | timestamp : OwnEntry now operation r message "timestamp" (some (.text now.stamp))
  | level : OwnEntry now operation r message "level" (some (.text (Level.name r.level)))
  | logger : OwnEntry now operation r message "logger" (some (.text r.logger))
  | message : OwnEntry now operation r message "message" (some (.text message))
  | operationId : OwnEntry now operation r message "operation_id" (operation.bind fun o => textEntry? o.id)
  | operationName : OwnEntry now operation r message "operation" (operation.bind fun o => textEntry? o.name)

/-- **What a line tells after its fields**: the fault, and the place in the program if the line is severe enough. -/
inductive ClosingEntry (r : Record) : String → Value → Prop where
  | incident {incident : Incident} (h : r.incident = some incident) : ClosingEntry r "exception" (.text incident.text)
  | source (h : sourceLevel ≤ r.level) : ClosingEntry r "source" r.source

variable {now : Moment} {operation : Option Operation} {r : Record} {message name : String}

/-- An entry of a text has the text under its name, unless it is empty. -/
theorem lookup_entryOfText (key name text : String) :
    (entryOfText key text).lookup name = if name = key then textEntry? text else none := by
  unfold entryOfText textEntry?
  by_cases hname : name = key
  · subst hname
    rw [if_pos rfl]
    split <;> simp
  · rw [if_neg hname]
    split <;> simp [List.lookup_cons, beq_eq_false_iff_ne.mpr hname]

/-- Own entries are those at the head of the line. -/
theorem OwnEntry.lookup_headEntries {own : Option Value} (h : OwnEntry now operation r message name own) :
    (headEntries now operation r message).lookup name = own := by
  -- behind the four entries that are always there stand those of the operation
  have hoperation : ∀ (o : Operation) (key : String),
      (entryOfText "operation_id" o.id ++ entryOfText "operation" o.name).lookup key
        = (if key = "operation_id" then textEntry? o.id else none).or
            (if key = "operation" then textEntry? o.name else none) := by
    intro o key
    rw [List.lookup_append, lookup_entryOfText, lookup_entryOfText]
  cases h with
  | timestamp => rfl
  | level => rfl
  | logger => rfl
  | message => rfl
  | operationId =>
    cases operation with
    | none => rfl
    | some o =>
      change (entryOfText "operation_id" o.id ++ entryOfText "operation" o.name).lookup "operation_id" = textEntry? o.id
      rw [hoperation, if_pos rfl, if_neg (by decide), Option.or_none]
  | operationName =>
    cases operation with
    | none => rfl
    | some o =>
      change (entryOfText "operation_id" o.id ++ entryOfText "operation" o.name).lookup "operation" = textEntry? o.name
      rw [hoperation, if_neg (by decide), if_pos rfl, Option.none_or]

/-- Behind the fields there are the source and the incident, where they apply. -/
theorem last?_tailEntries (r : Record) (name : String) :
    (tailEntries r).last? name
      = (if name = "source" ∧ sourceLevel ≤ r.level then some r.source else none).or
          (if name = "exception" then r.incident.map (Value.text ·.text) else none) := by
  have hsource : (if sourceLevel ≤ r.level then [("source", r.source)] else [] : Fields).reverse.lookup name
      = if name = "source" ∧ sourceLevel ≤ r.level then some r.source else none := by
    -- the source is written from a level on
    by_cases hlevel : sourceLevel ≤ r.level
    · by_cases hname : name = "source"
      · simp [hlevel, hname]
      · simp [hlevel, hname, List.lookup_cons, beq_eq_false_iff_ne.mpr hname]
    · simp [hlevel]
  rw [Fields.last?, tailEntries, List.reverse_append, List.lookup_append, hsource]
  congr 1
  cases r.incident with
  | none => simp
  | some incident =>
    by_cases hname : name = "exception"
    · simp [hname]
    · simp [hname, List.lookup_cons, beq_eq_false_iff_ne.mpr hname]

/-- No entry of its own is one of those that a line gets after its fields. -/
theorem OwnEntry.last?_tailEntries {own : Option Value} (h : OwnEntry now operation r message name own) :
    (tailEntries r).last? name = none := by
  have hne : name ≠ "source" ∧ name ≠ "exception" := by
    cases h <;> decide
  rw [LogFormat.last?_tailEntries, if_neg fun hsource => hne.1 hsource.1, if_neg hne.2, Option.none_or]

/-- Closing entries are those at the tail of the line. -/
theorem ClosingEntry.last?_tailEntries {v : Value} (h : ClosingEntry r name v) :
    (tailEntries r).last? name = some v := by
  rw [LogFormat.last?_tailEntries]
  cases h with
  | incident h =>
    rw [if_neg fun hsource => absurd hsource.1 (by decide), if_pos rfl, h, Option.map_some, Option.none_or]
  | source h => rw [if_pos ⟨rfl, h⟩, Option.some_or]

/-! ### What a line tells -/

/-- The entries of a line are set in three rows, of which the last counts first. -/
theorem lookup_jsonEntries_eq {entries : Fields} (h : jsonEntries now operation r = .ok entries) (name : String) :
    ∃ message masked, Template.render r.template r.arguments = .ok message ∧ Mask.fields r.fields = .ok masked
      ∧ entries.lookup name = ((tailEntries r).last? name).or
          ((masked.last? name).or ((headEntries now operation r message).lookup name)) := by
  obtain ⟨message, hmessage, h⟩ := bind_eq_ok_iff.mp h
  obtain ⟨masked, hmasked, h⟩ := bind_eq_ok_iff.mp h
  obtain rfl := Except.ok.inj h
  exact ⟨message, masked, hmessage, hmasked, by rw [lookup_withEntries_eq, lookup_withEntries_eq]⟩

/-- **A field with the name of an own entry takes its place.** -/
theorem lookup_own {entries : Fields} {own : Option Value}
    (hmessage : Template.render r.template r.arguments = .ok message)
    (h : jsonEntries now operation r = .ok entries) (hown : OwnEntry now operation r message name own) :
    entries.lookup name = (r.fields.last? name).elim own fun v => (Mask.shown name v).toOption := by
  obtain ⟨message', masked, hmessage', hmasked, hlookup⟩ := lookup_jsonEntries_eq h name
  obtain rfl : message' = message := Except.ok.inj (hmessage'.symm.trans hmessage)
  rw [hlookup, hown.last?_tailEntries, hown.lookup_headEntries, Option.none_or]
  obtain ⟨hnone, hnone'⟩ | ⟨v, w, hv, hshown, hw⟩ := Mask.last?_cases hmasked name
  · rw [hnone, hnone', Option.none_or, Option.elim_none]
  · rw [hv, hw, Option.some_or, Option.elim_some, hshown]
    rfl

/-- **Closing entries replace everything of their name.** -/
theorem lookup_closing {entries : Fields} {v : Value} (h : jsonEntries now operation r = .ok entries)
    (hclosing : ClosingEntry r name v) : entries.lookup name = some v := by
  obtain ⟨_, _, _, _, hlookup⟩ := lookup_jsonEntries_eq h name
  rw [hlookup, hclosing.last?_tailEntries, Option.some_or]

/-- The entries are there once the fields are masked. -/
theorem exists_jsonEntries_of_masked (now : Moment) (operation : Option Operation) {masked : Fields}
    (hmessage : Template.render r.template r.arguments = .ok message) (hmasked : Mask.fields r.fields = .ok masked) :
    ∃ entries, jsonEntries now operation r = .ok entries := by
  refine ⟨withEntries (withEntries (headEntries now operation r message) masked) (tailEntries r), ?_⟩
  rw [jsonEntries, hmessage, hmasked]
  rfl

/-- **The entries that a line has of its own give way to its fields**, and those that it gets after them do not. A line
whose message can be put into words, and whose fields can be masked, has its object at every moment and in every
operation. In it an own entry is as it should be if no field has its name, and otherwise is what the last such field is
masked to; so all own entries are as they should be exactly if every field that has the name of one is masked to what
this should be. The fault and the place in the program are as they should be in any case. -/
theorem own_entries_yield_to_fields (now : Moment) (operation : Option Operation) {r : Record} {message : String}
    {masked : Fields} (hmessage : Template.render r.template r.arguments = .ok message)
    (hmasked : Mask.fields r.fields = .ok masked) :
    ∃ entries, jsonEntries now operation r = .ok entries
      ∧ (∀ name own, OwnEntry now operation r message name own →
        entries.lookup name = (r.fields.last? name).elim own fun v => (Mask.shown name v).toOption)
      ∧ ((∀ name own, OwnEntry now operation r message name own → entries.lookup name = own)
        ↔ ∀ name own v, OwnEntry now operation r message name own → r.fields.last? name = some v →
          (Mask.shown name v).toOption = own)
      ∧ ∀ name v, ClosingEntry r name v → entries.lookup name = some v := by
  obtain ⟨entries, hentries⟩ := exists_jsonEntries_of_masked now operation hmessage hmasked
  -- an own entry is what the last field of its name says, and itself without one
  have hown : ∀ name own, OwnEntry now operation r message name own → entries.lookup name = _ :=
    fun _ _ => lookup_own hmessage hentries
  refine ⟨entries, hentries, hown, ?_, fun _ _ => lookup_closing hentries⟩
  constructor
  · intro hkept name own v hentry hv
    have htaken := hown name own hentry
    rw [hv, Option.elim_some, hkept name own hentry] at htaken
    exact htaken.symm
  · -- where a field has the name of an own entry, the two are the same or the entry is lost
    intro hsame name own hentry
    rw [hown name own hentry]
    cases hv : r.fields.last? name with
    | none => rfl
    | some v => exact hsame name own v hentry hv

/-- A line whose fields have the names of entries that it has anyway. -/
def disguised : Record where
  logger := "pkcs12_pbe.test"
  level := 40
  template := "hello"
  fields := [("operation_id", .text "forged"), ("message", .text "bye"), ("source", .text "nowhere")]
  incident := some .absent
  source := .text "here"

theorem own_entries_yield_to_fields_disguised :
    Template.render disguised.template disguised.arguments = .ok "hello"
      ∧ ∃ entries, jsonEntries ⟨2024, 1, 2, 3, 4, 5, 678900⟩ (some ⟨"00000001", "pbe_decrypt"⟩) disguised = .ok entries
        ∧ entries.lookup "operation_id" = some (.text "forged") ∧ entries.lookup "message" = some Mask.redacted
        ∧ entries.lookup "operation" = some (.text "pbe_decrypt") ∧ entries.lookup "source" = some (.text "here") := by
  have hmessage : Template.render disguised.template disguised.arguments = .ok "hello" := rfl
  obtain ⟨entries, hentries, hown, -, hclosing⟩ :=
    own_entries_yield_to_fields ⟨2024, 1, 2, 3, 4, 5, 678900⟩ (some ⟨"00000001", "pbe_decrypt"⟩) hmessage rfl
  exact ⟨hmessage, entries, hentries, hown _ _ .operationId, hown _ _ .message, hown _ _ .operationName,
    hclosing _ _ (.source (by decide))⟩

/-- A field gives a line another operation than the one that it is written in. -/
theorem operation_id_forged :
    ∃ entries, jsonEntries ⟨2024, 1, 2, 3, 4, 5, 678900⟩ (some ⟨"00000001", "pbe_decrypt"⟩) disguised = .ok entries
      ∧ OwnEntry ⟨2024, 1, 2, 3, 4, 5, 678900⟩ (some ⟨"00000001", "pbe_decrypt"⟩) disguised "hello" "operation_id"
        (some (.text "00000001"))
      ∧ entries.lookup "operation_id" ≠ some (.text "00000001") := by
  have hmessage : Template.render disguised.template disguised.arguments = .ok "hello" := rfl
  obtain ⟨entries, hentries⟩ := exists_jsonEntries_of_masked ⟨2024, 1, 2, 3, 4, 5, 678900⟩
    (some ⟨"00000001", "pbe_decrypt"⟩) hmessage rfl
  have hown : OwnEntry ⟨2024, 1, 2, 3, 4, 5, 678900⟩ (some ⟨"00000001", "pbe_decrypt"⟩) disguised "hello"
      "operation_id" (some (.text "00000001")) := .operationId
  refine ⟨entries, hentries, hown, ?_⟩
  rw [lookup_own hmessage hentries hown]
  -- both are texts, and the field has the other one
  intro hsame
  have hforged : Value.text "forged" = .text "00000001" := Option.some.inj hsame
  exact absurd (Value.text.inj hforged) (by decide)

end LogFormat

end Shroud
