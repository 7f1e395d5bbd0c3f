import Shroud.Log.Journal
import Shroud.Proofs.Json.Writing
import Shroud.Proofs.Log.Writable

/-!
# A JSON line is one line, and reads as its entries

What is in a record does not show in the form of its JSON line. Masking leaves ordinary values
(`Mask.MaskedTo.isOrdinary`), so every entry of the line tells something in JSON, and the line is the object of what
they tell. It is printable, so that there is no line end in it, and it reads as this object and as nothing else: there
is no message, no name and no value that makes a reader find other entries, or more lines than one.

`LogFormat.json_line` says so of every record whose message can be put into words and whose fields are ordinary, with
texts for keys as far as masking goes into them.
-/

namespace Shroud

/-- Without a line end there is one line. -/
theorem Text.linesOf_eq_singleton {cs : List Char} (h : '\n' ∉ cs) : linesOf cs = [cs] := by
  induction cs with
  | nil => rfl
  | cons c cs ih =>
    have hc : c ≠ '\n' := fun heq => h (heq ▸ List.mem_cons_self)
    have hcs : '\n' ∉ cs := fun hmem => h (List.mem_cons_of_mem c hmem)
    rw [linesOf, if_neg hc, ih hcs]

/-- A text of plain characters is one line, since the line end is not plain. -/
theorem Text.lines_eq_singleton {s : String} (h : ∀ c ∈ s.toList, IsPlain c) : lines s = [s] := by
  have hfeed : '\n' ∉ s.toList := fun hmem => absurd (h _ hmem) (by decide)
  rw [lines, linesOf_eq_singleton hfeed, List.map_singleton, String.ofList_toList]

namespace Mask

mutual

/-- Masking leaves ordinary values. -/
theorem MaskedTo.isOrdinary : ∀ {v w}, MaskedTo v w → v.isOrdinary = true → w.isOrdinary = true
  | _, _, .dict h => h.haveOrdinary
  | _, _, .bytes _ => fun _ => rfl
  | _, _, .buffer _ => fun _ => rfl
  | _, _, .itself _ => id

/-- Entries keep their keys; a value is hidden by an ordinary text, or masked itself. -/
theorem EntriesMaskedTo.haveOrdinary : ∀ {es masked}, EntriesMaskedTo es masked →
    Value.haveOrdinary es = true → Value.haveOrdinary masked = true
  | _, _, .nil => fun _ => rfl
  | _, _, .hidden _ _ hrest => fun h => by
    obtain ⟨hentry, hothers⟩ := Bool.and_eq_true_iff.mp h
    obtain ⟨hk, -⟩ := Bool.and_eq_true_iff.mp hentry
    rw [Value.haveOrdinary, hk, hrest.haveOrdinary hothers]
    rfl
  | _, _, .visible _ _ hv hrest => fun h => by
    obtain ⟨hentry, hothers⟩ := Bool.and_eq_true_iff.mp h
    obtain ⟨hk, hordinary⟩ := Bool.and_eq_true_iff.mp hentry
    rw [Value.haveOrdinary, hk, hv.isOrdinary hordinary, hrest.haveOrdinary hothers]
    rfl

end

/-- The same of a field, whose name is no value. -/
theorem FieldMaskedTo.isOrdinary {field shown : String × Value} (h : FieldMaskedTo field shown)
    (hfield : field.2.isOrdinary = true) : shown.2.isOrdinary = true := by
  cases h with
  | hidden => rfl
  | visible _ hv => exact hv.isOrdinary hfield

/-- Fields that are ordinary are ordinary when they are masked. -/
theorem forall_isOrdinary {fs masked : Fields} (h : List.Forall₂ FieldMaskedTo fs masked)
    (hfields : ∀ field ∈ fs, field.2.isOrdinary = true) : ∀ field ∈ masked, field.2.isOrdinary = true := by
  induction h with
  | nil => exact hfields
  | cons hfield _ ih =>
    obtain ⟨hfirst, hrest⟩ := List.forall_mem_cons.mp hfields
    exact List.forall_mem_cons.mpr ⟨hfield.isOrdinary hfirst, ih hrest⟩

end Mask

namespace LogFormat

/-- **What an entry tells**: the same name, and what its value tells. -/
def EntryTells (entry : String × Value) (member : String × Json) : Prop :=
  member.1 = entry.1 ∧ Value.Tells entry.2 member.2

/-- Entries with ordinary values all tell something. -/
theorem exists_entriesTell {entries : Fields} (h : ∀ entry ∈ entries, entry.2.isOrdinary = true) :
    ∃ members, List.Forall₂ EntryTells entries members := by
  induction entries with
  | nil => exact ⟨[], .nil⟩
  | cons entry rest ih =>
    obtain ⟨hfirst, hrest⟩ := List.forall_mem_cons.mp h
    obtain ⟨j, hj⟩ := Value.exists_tells entry.2 hfirst
    obtain ⟨members, hmembers⟩ := ih hrest
    exact ⟨(entry.1, j) :: members, .cons ⟨rfl, hj⟩ hmembers⟩

/-- What entries tell one by one, a dictionary with these names tells as an object. -/
theorem entriesTell_of_forall₂ {entries : Fields} {members : List (String × Json)}
    (h : List.Forall₂ EntryTells entries members) :
    Value.EntriesTell (entries.map fun (name, v) => (.text name, v)) members := by
  induction h with
  | nil => exact .nil
  | @cons entry member _ _ hentry _ ih =>
    obtain ⟨name, v⟩ := entry
    obtain ⟨name', j⟩ := member
    obtain ⟨rfl, hv⟩ := hentry
    exact .cons rfl hv ih

/-- The names of an object are those of the entries. -/
theorem map_fst_of_forall₂ {entries : Fields} {members : List (String × Json)}
    (h : List.Forall₂ EntryTells entries members) : members.map Prod.fst = entries.map Prod.fst := by
  induction h with
  | nil => rfl
  | cons hentry _ ih => rw [List.map_cons, List.map_cons, hentry.1, ih]

variable {now : Moment} {operation : Option Operation} {r : Record} {message : String}

/-- What every line starts with is ordinary: texts, and the operation if there is one. -/
theorem isOrdinary_headEntries : ∀ entry ∈ headEntries now operation r message, entry.2.isOrdinary = true := by
  have htexts : ∀ name text : String, ∀ entry ∈ entryOfText name text, entry.2.isOrdinary = true := by
    intro name text
    unfold entryOfText
    split
    · exact fun _ hentry => absurd hentry List.not_mem_nil
    · exact List.forall_mem_singleton.mpr rfl
  -- four entries that are always there, and two of the operation
  refine List.forall_mem_append.mpr ⟨fun entry hentry => ?_, ?_⟩
  · simp only [List.mem_cons, List.not_mem_nil, or_false] at hentry
    obtain rfl | rfl | rfl | rfl := hentry <;> rfl
  · cases operation with
    | none => exact fun _ hentry => absurd hentry List.not_mem_nil
    | some o => exact List.forall_mem_append.mpr ⟨htexts _ _, htexts _ _⟩

/-- What comes after the fields is ordinary if the source of the line is. -/
theorem isOrdinary_tailEntries (h : sourceLevel ≤ r.level → r.source.isOrdinary = true) :
    ∀ entry ∈ tailEntries r, entry.2.isOrdinary = true := by
  refine List.forall_mem_append.mpr ⟨?_, ?_⟩
  · cases r.incident with
    | none => exact fun _ hentry => absurd hentry List.not_mem_nil
    | some incident => exact List.forall_mem_singleton.mpr rfl
  · split
    · next hlevel => exact List.forall_mem_singleton.mpr (h hlevel)
    · exact fun _ hentry => absurd hentry List.not_mem_nil

/-- **A JSON line is one line, and reads as its entries.** Its message may be any text. It is written in printable
characters of ASCII, so it is one line, and it reads as one object and nothing else. This has the entries that every
line has, with the masked fields set over them, and then what comes after the fields; each name is there once, and each
value is what the entry tells. -/
theorem json_line (now : Moment) (operation : Option Operation) {r : Record} {message : String}
    (hmessage : Template.render r.template r.arguments = .ok message)
    (hfields : ∀ field ∈ r.fields, field.2.isOrdinary = true)
    (hkeys : ∀ field ∈ r.fields, Mask.hasTextKeys field.2 = true)
    (hsource : sourceLevel ≤ r.level → r.source.isOrdinary = true) :
    ∃ text masked members, render .json now operation r = .ok text
      ∧ (∀ c ∈ text.toList, Text.IsPlain c) ∧ Text.lines text = [text]
      ∧ List.Forall₂ Mask.FieldMaskedTo r.fields masked
      ∧ List.Forall₂ EntryTells
        (withEntries (withEntries (headEntries now operation r message) masked) (tailEntries r)) members
      ∧ (members.map Prod.fst).Nodup
      ∧ ∀ j, Json.IsText j text.toList ↔ j = .object members := by
  obtain ⟨masked, hmasked⟩ := Mask.exists_fields hkeys
  have hentries : jsonEntries now operation r
      = .ok (withEntries (withEntries (headEntries now operation r message) masked) (tailEntries r)) := by
    rw [jsonEntries, hmessage, Mask.fields_eq_ok_iff.mpr hmasked]
    rfl
  -- entries are ordinary through both updates: those of the head, the masked fields, those of the tail
  have hupdated : ∀ entry ∈ withEntries (headEntries now operation r message) masked, entry.2.isOrdinary = true :=
    forall_mem_withEntries (P := (Value.isOrdinary · = true)) isOrdinary_headEntries
      (Mask.forall_isOrdinary hmasked hfields)
  have hordinary := forall_mem_withEntries (P := (Value.isOrdinary · = true)) hupdated (isOrdinary_tailEntries hsource)
  -- so each of them tells something, and the line is the object of all this
  obtain ⟨members, hmembers⟩ := exists_entriesTell hordinary
  obtain ⟨text, htext, hwritten⟩ := (Value.Tells.dict (entriesTell_of_forall₂ hmembers)).exists_json
  -- the line has no space around the object
  have hobject : Json.IsText (.object members) text.toList := by
    have hpadded := Json.IsText.mk Json.isSpace_nil hwritten.reads Json.isSpace_nil
    rwa [List.append_nil, List.nil_append] at hpadded
  refine ⟨text, masked, members, ?_, hwritten.plain, Text.lines_eq_singleton hwritten.plain, hmasked, hmembers, ?_,
    fun j => ⟨fun hj => hj.unique hobject rfl, fun hj => hj ▸ hobject⟩⟩
  · rw [render, asJson, hentries]
    exact htext
  · rw [map_fst_of_forall₂ hmembers]
    exact nodup_jsonEntries hentries

/-- A record that looks like two lines, with a character above the first plane, and octets inside a list. -/
def misleading : Record where
  logger := "pkcs12_pbe.\"sample\""
  level := 30
  template := "hello \\\n\x7b\"level\": \"DEBUG\", \"message\": \"😀\"\x7d"
  fields := [("\n\"", .list [.bytes [0, 0x27, 0xff], .dict [(.text "\t", .int (-12))], .null]), ("pin", .bytes [1, 2])]
  source := .dict [(.text "file", .text "x.py"), (.text "line", .int 1), (.text "function", .null)]

/-- Its line is one line all the same, and reads as one object. -/
theorem json_line_misleading :
    Template.render misleading.template misleading.arguments = .ok misleading.template
      ∧ (∀ field ∈ misleading.fields, field.2.isOrdinary = true)
      ∧ (∀ field ∈ misleading.fields, Mask.hasTextKeys field.2 = true) ∧ misleading.source.isOrdinary = true
      ∧ ∃ text masked members, render .json ⟨2024, 1, 2, 3, 4, 5, 678900⟩ none misleading = .ok text
        ∧ Text.lines text = [text] ∧ List.Forall₂ Mask.FieldMaskedTo misleading.fields masked
        ∧ ∀ j, Json.IsText j text.toList ↔ j = .object members := by
  -- the three conditions are checked by computing them
  have hfields : ∀ field ∈ misleading.fields, field.2.isOrdinary = true := by decide +kernel
  have hkeys : ∀ field ∈ misleading.fields, Mask.hasTextKeys field.2 = true := by decide +kernel
  have hsource : misleading.source.isOrdinary = true := by decide +kernel
  obtain ⟨text, masked, members, htext, -, hlines, hmasked, -, -, hreads⟩ :=
    json_line ⟨2024, 1, 2, 3, 4, 5, 678900⟩ none (r := misleading) rfl hfields hkeys fun _ => hsource
  exact ⟨rfl, hfields, hkeys, hsource, text, masked, members, htext, hlines, hmasked, hreads⟩

end LogFormat

end Shroud
