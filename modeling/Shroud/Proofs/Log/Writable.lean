import Shroud.Proofs.Log.OwnEntries
import Shroud.Proofs.Log.Redaction
import Shroud.Proofs.Value.Fits

/-!
# Which records can be written

A field is masked before it is written. For this the keys of dictionaries have to be texts as far as masking goes into
them, and what is left has to be a value that can be written. `Mask.isShown` asks for both: that a value can be masked,
and that what is left of it has a property, which may be that it fits, that it has a text in JSON, or nothing. Octets
and what stands under a sensitive name are not asked, since none of it is left.

`LogFormat.written_exactly` says of every record with which fields it can be masked, written for people, and written in
JSON. There it matters which fields count, as an entry that is set later takes the place of a field.
-/

namespace Shroud

/-! ### Fields that can be masked -/

namespace Mask

mutual

/-- **Whether a value can be masked, and what is left of it has a property.** -/
def isShown (p : Value → Bool) : Value → Bool
  | .dict es => areShown p es
  | .bytes _ | .buffer _ => true
  | v => p v

/-- Whether entries can be masked, and what is left of their values has a property. -/
def areShown (p : Value → Bool) : List (Value × Value) → Bool
  | [] => true
  | (k, v) :: rest => k.text?.isSome && (hides k || isShown p v) && areShown p rest

end

/-- Whether a field can be masked, and what is left of its value has a property. -/
def isShownField (p : Value → Bool) : String × Value → Bool
  | (name, v) => isSensitive name || isShown p v

/-- A property that texts have, and that dictionaries with texts for keys have as their values do. -/
structure Entrywise (p : Value → Bool) : Prop where
  text : ∀ s, p (.text s) = true
  nil : p (.dict []) = true
  cons : ∀ {k : Value}, k.text?.isSome = true → ∀ v rest, p (.dict ((k, v) :: rest)) = (p v && p (.dict rest))

theorem entrywise_true : Entrywise fun _ => true :=
  ⟨fun _ => rfl, rfl, fun _ _ _ => rfl⟩

/-- Having a text is told entry by entry. -/
theorem entrywise_fits : Entrywise Value.fits where
  text _ := rfl
  nil := rfl
  cons {k} hk v rest := by
    have hkey : Value.fits k = true := by
      cases k with
      | text => rfl
      | scheme => rfl
      | _ => exact nomatch hk
    rw [Value.fits, Value.fitEntries, hkey, Bool.true_and, Value.fits]

/-- Having a form in JSON is told entry by entry, since keys that survive the masking are texts. -/
theorem entrywise_hasJson : Entrywise Value.hasJson where
  text _ := rfl
  nil := rfl
  cons {k} hk v rest := by
    have hkey : Value.isJsonName k = true := by
      cases k with
      | text => rfl
      | scheme => rfl
      | _ => exact nomatch hk
    rw [Value.hasJson, Value.entriesHaveJson, hkey, Bool.true_and, Value.hasJson]

variable {p : Value → Bool}

/-- A value is masked under the name that its key has. -/
theorem shownUnder_of_text? {k : Value} {name : String} (h : k.text? = some name) (v : Value) :
    shownUnder k v = shown name v := by
  rw [shownUnder, keyName_eq_ok_iff.mpr h]
  rfl

/-- A value under a sensitive name is replaced, and else it is masked itself. -/
theorem shown_iff (hp : Entrywise p) {v : Value} (hv : isShown p v = true ↔ ∃ w, value v = .ok w ∧ p w = true)
    (name : String) : (isSensitive name || isShown p v) = true ↔ ∃ w, shown name v = .ok w ∧ p w = true := by
  unfold shown
  cases isSensitive name with
  | true => exact iff_of_true rfl ⟨redacted, rfl, hp.text _⟩
  | false => exact hv

mutual

/-- The check tells what a value is masked to. -/
theorem isShown_iff (hp : Entrywise p) : ∀ v, isShown p v = true ↔ ∃ w, value v = .ok w ∧ p w = true
  | .dict es => by
    rw [isShown, areShown_iff hp es, value]
    constructor
    · rintro ⟨masked, hmasked, hall⟩
      exact ⟨_, map_eq_ok_iff.mpr ⟨masked, hmasked, rfl⟩, hall⟩
    · rintro ⟨w, hw, hall⟩
      obtain ⟨masked, hmasked, rfl⟩ := map_eq_ok_iff.mp hw
      exact ⟨masked, hmasked, hall⟩
  -- octets are replaced by their summary, a text
  | .bytes bs | .buffer bs => iff_of_true rfl ⟨summary bs, rfl, hp.text _⟩
  | .null | .bool _ | .int _ | .float _ | .text _ | .list _ | .tuple _ | .scheme _ | .purpose _ | .fault .. => by
    constructor
    · intro h
      exact ⟨_, rfl, h⟩
    · rintro ⟨w, hw, h⟩
      obtain rfl := Except.ok.inj hw
      exact h

/-- The same of entries, one by one. -/
theorem areShown_iff (hp : Entrywise p) :
    ∀ es, areShown p es = true ↔ ∃ masked, entries es = .ok masked ∧ p (.dict masked) = true
  | [] => iff_of_true rfl ⟨[], rfl, hp.nil⟩
  | (k, v) :: rest => by
    simp only [areShown, Bool.and_eq_true, areShown_iff hp rest, entries_cons_eq_ok_iff]
    constructor
    · rintro ⟨⟨hkey, hentry⟩, others, hothers, hrest⟩
      -- a key without a name stops the masking, so the key has one here
      obtain ⟨name, hname⟩ := Option.isSome_iff_exists.mp hkey
      rw [hides_of_keyName (keyName_eq_ok_iff.mpr hname)] at hentry
      obtain ⟨w, hw, hpw⟩ := (shown_iff hp (isShown_iff hp v) name).mp hentry
      rw [← shownUnder_of_text? hname] at hw
      refine ⟨_, ⟨w, others, hw, hothers, rfl⟩, ?_⟩
      rw [hp.cons hkey, hpw, hrest, Bool.true_and]
    · rintro ⟨_, ⟨w, others, hw, hothers, rfl⟩, hall⟩
      obtain ⟨name, hname, -⟩ := shownUnder_eq_ok_iff.mp hw
      have hkey : k.text?.isSome = true := Option.isSome_iff_exists.mpr ⟨name, hname⟩
      rw [hp.cons hkey, Bool.and_eq_true] at hall
      rw [shownUnder_of_text? hname] at hw
      rw [hides_of_keyName (keyName_eq_ok_iff.mpr hname)]
      exact ⟨⟨hkey, (shown_iff hp (isShown_iff hp v) name).mpr ⟨w, hw, hall.1⟩⟩, others, hothers, hall.2⟩

end

/-- **A field is shown if its masked value has the property.** -/
theorem isShownField_iff (hp : Entrywise p) {name : String} {v : Value} :
    isShownField p (name, v) = true ↔ ∃ w, shown name v = .ok w ∧ p w = true :=
  shown_iff hp (isShown_iff hp v) name

/-- The check tells what the fields of a line are masked to. -/
theorem forall_isShownField_iff (hp : Entrywise p) {fs : Fields} :
    (∀ field ∈ fs, isShownField p field = true)
      ↔ ∃ masked, fields fs = .ok masked ∧ ∀ field ∈ masked, p field.2 = true := by
  induction fs with
  | nil => exact iff_of_true (fun _ h => absurd h List.not_mem_nil) ⟨[], rfl, fun _ h => absurd h List.not_mem_nil⟩
  | cons field rest ih =>
    obtain ⟨name, v⟩ := field
    rw [List.forall_mem_cons, isShownField_iff hp, ih]
    simp only [fields_cons_eq_ok_iff]
    constructor
    · rintro ⟨⟨w, hw, hpw⟩, others, hothers, hall⟩
      exact ⟨_, ⟨w, others, hw, hothers, rfl⟩, List.forall_mem_cons.mpr ⟨hpw, hall⟩⟩
    · rintro ⟨_, ⟨w, others, hw, hothers, rfl⟩, hall⟩
      obtain ⟨hpw, hall⟩ := List.forall_mem_cons.mp hall
      exact ⟨⟨w, hw, hpw⟩, others, hothers, hall⟩

mutual

/-- Of an ordinary value only the keys are asked for which masking wants texts. -/
theorem isShown_of_isOrdinary (hp : ∀ v : Value, v.isOrdinary = true → p v = true) :
    ∀ v : Value, v.isOrdinary = true → isShown (fun _ => true) v = true → isShown p v = true
  | .dict es => areShown_of_haveOrdinary hp es
  | .bytes _ | .buffer _ => fun _ _ => rfl
  | .null | .bool _ | .int _ | .text _ | .list _ | .tuple _ | .float _ | .scheme _ | .purpose _ | .fault .. =>
    fun hv _ => hp _ hv

/-- The same of the entries of a dictionary. -/
theorem areShown_of_haveOrdinary (hp : ∀ v : Value, v.isOrdinary = true → p v = true) :
    ∀ es, Value.haveOrdinary es = true → areShown (fun _ => true) es = true → areShown p es = true
  | [] => fun _ _ => rfl
  | (k, v) :: rest => fun hes h => by
    obtain ⟨hentry, hrest⟩ := Bool.and_eq_true_iff.mp hes
    obtain ⟨-, hv⟩ := Bool.and_eq_true_iff.mp hentry
    obtain ⟨hshown, hshownRest⟩ := Bool.and_eq_true_iff.mp h
    obtain ⟨hkey, hshown⟩ := Bool.and_eq_true_iff.mp hshown
    rw [areShown, hkey, areShown_of_haveOrdinary hp rest hrest hshownRest, Bool.true_and, Bool.and_true]
    -- hidden values need not be ordinary
    obtain hhides | hshown := Bool.or_eq_true_iff.mp hshown
    · rw [hhides, Bool.true_or]
    · rw [isShown_of_isOrdinary hp v hv hshown, Bool.or_true]

end

/-- Fields of ordinary values are shown once they can be masked. -/
theorem isShownField_of_isOrdinary (hp : ∀ v : Value, v.isOrdinary = true → p v = true) {field : String × Value}
    (hv : field.2.isOrdinary = true) (h : isShownField (fun _ => true) field = true) :
    isShownField p field = true := by
  obtain hname | hshown := Bool.or_eq_true_iff.mp h
  · exact Bool.or_eq_true_iff.mpr (.inl hname)
  · exact Bool.or_eq_true_iff.mpr (.inr (isShown_of_isOrdinary hp _ hv hshown))

/-- **Which fields can be masked.** -/
theorem exists_fields_iff {fs : Fields} :
    (∃ masked, fields fs = .ok masked) ↔ ∀ field ∈ fs, isShownField (fun _ => true) field = true := by
  rw [forall_isShownField_iff entrywise_true]
  exact exists_congr fun masked => (and_iff_left fun _ _ => rfl).symm

end Mask

namespace LogFormat

variable {now : Moment} {operation : Option Operation} {r : Record}

/-! ### Records that can be written -/

/-- A record whose message can be put into words. -/
def HasMessage (r : Record) : Prop :=
  ∃ message, Template.render r.template r.arguments = .ok message

/-- Fields are written if each of their values has a text. -/
theorem isOk_assignments (fs : Fields) : (assignments fs).isOk = fs.all fun field => field.2.fits := by
  induction fs with
  | nil => rfl
  | cons field rest ih =>
    obtain ⟨name, v⟩ := field
    rw [assignments, isOk_bind_bind, Value.isOk_display, ih, List.all_cons]

/-- **The fields of the human line are written if all of them are shown.** -/
theorem exists_fieldText_iff {fs : Fields} :
    (∃ text, fieldText fs = .ok text) ↔ ∀ field ∈ fs, Mask.isShownField Value.fits field = true := by
  rw [Mask.forall_isShownField_iff Mask.entrywise_fits]
  cases fs with
  | nil => exact iff_of_true ⟨_, rfl⟩ ⟨[], rfl, fun _ h => absurd h List.not_mem_nil⟩
  -- the line names the fields as soon as there is one
  | cons field rest =>
    change (∃ text, (Mask.fields (field :: rest) >>= fun masked => assignments masked >>= fun shown =>
      pure (" | " ++ " ".intercalate shown)) = .ok text) ↔ _
    simp only [bind_eq_ok_iff, pure_eq_ok_iff]
    constructor
    · rintro ⟨_, masked, hmasked, texts, htexts, -⟩
      have hok : (assignments masked).isOk = true := isOk_iff.mpr ⟨texts, htexts⟩
      rw [isOk_assignments, List.all_eq_true] at hok
      exact ⟨masked, hmasked, hok⟩
    · rintro ⟨masked, hmasked, hall⟩
      have hok : (assignments masked).isOk = true := by
        rw [isOk_assignments, List.all_eq_true]
        exact hall
      obtain ⟨texts, htexts⟩ := isOk_iff.mp hok
      exact ⟨_, masked, hmasked, texts, htexts, rfl⟩

/-- **Which records can be written for people.** -/
theorem exists_human_iff :
    (∃ text, render .human now operation r = .ok text)
      ↔ HasMessage r ∧ ∀ field ∈ r.fields, Mask.isShownField Value.fits field = true := by
  rw [← exists_fieldText_iff, HasMessage, render]
  simp only [asHuman_eq_ok_iff]
  constructor
  · rintro ⟨_, text, message, htext, hmessage, -⟩
    exact ⟨⟨message, hmessage⟩, text, htext⟩
  · rintro ⟨⟨message, hmessage⟩, text, htext⟩
    exact ⟨_, text, message, htext, hmessage, rfl⟩

/-- The entries that close the object are those of its tail. -/
theorem closingEntry_iff {name : String} {v : Value} :
    ClosingEntry r name v ↔ (tailEntries r).last? name = some v := by
  refine ⟨ClosingEntry.last?_tailEntries, fun h => ?_⟩
  rw [last?_tailEntries] at h
  -- the source line is the last entry if it is there at all, and then comes the incident
  by_cases hsource : name = "source" ∧ sourceLevel ≤ r.level
  · obtain ⟨rfl, hlevel⟩ := hsource
    rw [if_pos ⟨rfl, hlevel⟩, Option.some_or] at h
    obtain rfl := Option.some.inj h
    exact .source hlevel
  · rw [if_neg hsource, Option.none_or] at h
    split at h
    · next hname =>
      obtain ⟨incident, hincident, rfl⟩ := Option.map_eq_some_iff.mp h
      exact hname ▸ .incident hincident
    · exact nomatch h

/-- **A field that a JSON line shows**: the last one with its name, if nothing that is set after the fields has it. -/
def ShowsField (r : Record) (name : String) (v : Value) : Prop :=
  r.fields.last? name = some v ∧ ∀ w, ¬ClosingEntry r name w

/-- What stands at the head of the object always has a form in JSON. -/
theorem hasJson_headEntries {now : Moment} {operation : Option Operation} {message name : String} {v : Value}
    (h : (headEntries now operation r message).lookup name = some v) : v.hasJson = true := by
  have hmem := (Assoc.mem_iff_lookup (nodup_headEntries now operation r message)).mpr h
  cases isSimple_headEntries now operation r message _ hmem with
  | text => rfl
  | float => rfl

/-- What a line tells under its names can be written in JSON if this is so for the place in the program and for the
fields that are shown. -/
theorem forall_hasJson_iff {entries : Fields} (h : jsonEntries now operation r = .ok entries) :
    (∀ entry ∈ entries, entry.2.hasJson = true)
      ↔ (sourceLevel ≤ r.level → r.source.hasJson = true)
        ∧ ∀ name v, ShowsField r name v → Mask.isShownField Value.hasJson (name, v) = true := by
  -- names are different, so entries can be looked up instead of gone through
  have hentries : (∀ entry ∈ entries, entry.2.hasJson = true)
      ↔ ∀ name v, entries.lookup name = some v → v.hasJson = true := by
    simp only [Prod.forall, Assoc.mem_iff_lookup (nodup_jsonEntries h)]
  rw [hentries]
  constructor
  · intro hall
    refine ⟨fun hlevel => hall _ _ (lookup_closing h (.source hlevel)), fun name v hshows => ?_⟩
    obtain ⟨message, masked, -, hmasked, hlookup⟩ := lookup_jsonEntries_eq h name
    -- a field that shows is hidden by no entry behind it
    have htail : (tailEntries r).last? name = none :=
      Option.eq_none_iff_forall_ne_some.mpr fun w hw => hshows.2 w (closingEntry_iff.mpr hw)
    obtain ⟨hnone, -⟩ | ⟨v', w, hv', hw, hlast⟩ := Mask.last?_cases hmasked name
    · exact nomatch hshows.1.symm.trans hnone
    · obtain rfl := Option.some.inj (hshows.1.symm.trans hv')
      rw [htail, hlast, Option.none_or, Option.some_or] at hlookup
      exact (Mask.isShownField_iff Mask.entrywise_hasJson).mpr ⟨w, hw, hall name w hlookup⟩
  · rintro ⟨hsource, hfields⟩ name v hv
    obtain ⟨message, masked, -, hmasked, hlookup⟩ := lookup_jsonEntries_eq h name
    rw [hv] at hlookup
    -- the entry comes from behind the fields, from a field, or from the head of the line
    cases htail : (tailEntries r).last? name with
    | some w =>
      rw [htail, Option.some_or] at hlookup
      obtain rfl := Option.some.inj hlookup
      cases closingEntry_iff.mpr htail with
      | incident => rfl
      | source hlevel => exact hsource hlevel
    | none =>
      rw [htail, Option.none_or] at hlookup
      have hclosing : ∀ w, ¬ClosingEntry r name w := fun w hw => nomatch htail.symm.trans (closingEntry_iff.mp hw)
      obtain ⟨-, hnone⟩ | ⟨v', w, hv', hw, hlast⟩ := Mask.last?_cases hmasked name
      · rw [hnone, Option.none_or] at hlookup
        exact hasJson_headEntries hlookup.symm
      · rw [hlast, Option.some_or] at hlookup
        obtain rfl := Option.some.inj hlookup
        obtain ⟨w', hw', hjson⟩ := (Mask.isShownField_iff Mask.entrywise_hasJson).mp (hfields name v' ⟨hv', hclosing⟩)
        obtain rfl := Except.ok.inj (hw.symm.trans hw')
        exact hjson

/-- An object is written if each of its values has a form in JSON. -/
theorem isOk_json_object (entries : Fields) :
    (Value.json (.dict (entries.map fun (name, v) => (.text name, v)))).isOk
      = entries.all fun entry => entry.2.hasJson := by
  rw [Value.isOk_json, Value.hasJson]
  induction entries with
  | nil => rfl
  | cons entry rest ih =>
    obtain ⟨name, v⟩ := entry
    rw [List.map_cons, Value.entriesHaveJson, ih, List.all_cons, Value.isJsonName, Bool.true_and]

/-- The entries are there if the message is, and all fields can be masked. -/
theorem exists_jsonEntries_iff (now : Moment) (operation : Option Operation) :
    (∃ entries, jsonEntries now operation r = .ok entries)
      ↔ HasMessage r ∧ ∀ field ∈ r.fields, Mask.isShownField (fun _ => true) field = true := by
  rw [← Mask.exists_fields_iff]
  constructor
  · rintro ⟨entries, h⟩
    obtain ⟨message, hmessage, h⟩ := bind_eq_ok_iff.mp h
    obtain ⟨masked, hmasked, -⟩ := bind_eq_ok_iff.mp h
    exact ⟨⟨message, hmessage⟩, masked, hmasked⟩
  · rintro ⟨⟨message, hmessage⟩, masked, hmasked⟩
    exact exists_jsonEntries_of_masked now operation hmessage hmasked

/-- **Which records can be written in JSON.** -/
theorem exists_json_iff :
    (∃ text, render .json now operation r = .ok text)
      ↔ HasMessage r ∧ (∀ field ∈ r.fields, Mask.isShownField (fun _ => true) field = true)
        ∧ (sourceLevel ≤ r.level → r.source.hasJson = true)
        ∧ ∀ name v, ShowsField r name v → Mask.isShownField Value.hasJson (name, v) = true := by
  -- the entries first, and then their text
  rw [← and_assoc, ← exists_jsonEntries_iff now operation, render]
  unfold asJson
  constructor
  · rintro ⟨text, h⟩
    obtain ⟨entries, hentries, htext⟩ := bind_eq_ok_iff.mp h
    have hok := isOk_iff.mpr ⟨text, htext⟩
    rw [isOk_json_object, List.all_eq_true] at hok
    exact ⟨⟨entries, hentries⟩, (forall_hasJson_iff hentries).mp hok⟩
  · rintro ⟨⟨entries, hentries⟩, hall⟩
    have hok := List.all_eq_true.mpr ((forall_hasJson_iff hentries).mpr hall)
    rw [← isOk_json_object] at hok
    obtain ⟨text, htext⟩ := isOk_iff.mp hok
    exact ⟨text, bind_eq_ok_iff.mpr ⟨entries, hentries, htext⟩⟩

/-- The last value of a name is one of its values. -/
theorem mem_of_last? {fs : Fields} {name : String} {v : Value} (h : fs.last? name = some v) : (name, v) ∈ fs := by
  obtain ⟨before, after, hsplit, -⟩ := List.lookup_eq_some_iff.mp h
  rw [← List.mem_reverse, hsplit]
  exact List.mem_append_right _ List.mem_cons_self

/-- With ordinary fields, a record can be written in every format if its fields can be masked. -/
theorem exists_render_of_isOrdinary (hfields : ∀ field ∈ r.fields, field.2.isOrdinary = true) (hmessage : HasMessage r)
    (hsource : r.source.hasJson = true)
    (hmasked : ∀ field ∈ r.fields, Mask.isShownField (fun _ => true) field = true) (format : LogFormat) (now : Moment)
    (operation : Option Operation) : ∃ text, format.render now operation r = .ok text := by
  -- each format asks for less than an ordinary value offers
  cases format with
  | json =>
    refine exists_json_iff.mpr ⟨hmessage, hmasked, fun _ => hsource, fun name v hshows => ?_⟩
    have hmem := mem_of_last? hshows.1
    exact Mask.isShownField_of_isOrdinary (fun v hv => (v.fits_of_isOrdinary hv).2) (hfields _ hmem) (hmasked _ hmem)
  | human =>
    refine exists_human_iff.mpr ⟨hmessage, fun field hmem => ?_⟩
    exact Mask.isShownField_of_isOrdinary (fun v hv => (v.fits_of_isOrdinary hv).1) (hfields _ hmem) (hmasked _ hmem)
  | bare =>
    obtain ⟨message, hmessage⟩ := hmessage
    exact ⟨_, by rw [render, asBare, hmessage]; rfl⟩

/-- **Which records can be written.** The fields can be masked if every dictionary that masking goes into has texts for
keys. For people, integers have to fit besides wherever something is left of the fields; in JSON this is asked of the
fields that are shown, and that dictionaries in sequences have names for keys. So ordinary fields are written in every
format if they can be masked. -/
theorem written_exactly (r : Record) :
    ((∃ masked, Mask.fields r.fields = .ok masked)
        ↔ ∀ field ∈ r.fields, Mask.isShownField (fun _ => true) field = true)
      ∧ (∀ now operation, (∃ text, render .human now operation r = .ok text)
        ↔ HasMessage r ∧ ∀ field ∈ r.fields, Mask.isShownField Value.fits field = true)
      ∧ (∀ now operation, (∃ text, render .json now operation r = .ok text)
        ↔ HasMessage r ∧ (∀ field ∈ r.fields, Mask.isShownField (fun _ => true) field = true)
          ∧ (sourceLevel ≤ r.level → r.source.hasJson = true)
          ∧ ∀ name v, ShowsField r name v → Mask.isShownField Value.hasJson (name, v) = true)
      ∧ ((∀ field ∈ r.fields, field.2.isOrdinary = true) → HasMessage r → r.source.hasJson = true →
        (∀ field ∈ r.fields, Mask.isShownField (fun _ => true) field = true) →
          ∀ format now operation, ∃ text, render format now operation r = .ok text) :=
  ⟨Mask.exists_fields_iff, fun _ _ => exists_human_iff, fun _ _ => exists_json_iff, exists_render_of_isOrdinary⟩

/-- A line with a dictionary that has a number for a key. -/
def numbered : Record where
  logger := "pkcs12_pbe.sample"
  level := 20
  template := "hello"
  fields := [("a", .dict [(.int 1, .int 2)])]
  source := .text "here"

/-- The same dictionary inside a list. -/
def listed : Record :=
  { numbered with fields := [("a", .list [.dict [(.int 1, .int 2)]])] }

theorem written_exactly_listed :
    (∀ field ∈ listed.fields, field.2.isOrdinary = true)
      ∧ ∀ format now operation, ∃ text, render format now operation listed = .ok text := by
  have hfields : ∀ field ∈ listed.fields, field.2.isOrdinary = true := by decide +kernel
  have hmasked : ∀ field ∈ listed.fields, Mask.isShownField (fun _ => true) field = true := by decide +kernel
  exact ⟨hfields, (written_exactly listed).2.2.2 hfields ⟨"hello", rfl⟩ rfl hmasked⟩

/-- An ordinary field that cannot be masked, and so not written either. -/
theorem number_key_refused :
    (∀ field ∈ numbered.fields, field.2.isOrdinary = true) ∧ HasMessage numbered
      ∧ Mask.fields numbered.fields = .error .fieldName
      ∧ render .json ⟨2024, 1, 2, 3, 4, 5, 678900⟩ none numbered = .error .fieldName
      ∧ render .human ⟨2024, 1, 2, 3, 4, 5, 678900⟩ none numbered = .error .fieldName :=
  ⟨by decide +kernel, ⟨"hello", rfl⟩, rfl, rfl, rfl⟩

end LogFormat

end Shroud
