import Shroud.Proofs.Log.Fields
import Shroud.Proofs.Log.Notices

/-!
# Reports and their lines

What a call leaves in the journal is a `Report`: lines outside of any operation, or one operation with the lines noted
inside it and the way it ended.

At the lowest level everything that is reported is written, and the lines of a call form a trace (`IsTrace`): outside of
any operation none of them carries one and none reads as the end of one; inside of one all of them carry it, and the
last is the only one that reads as an end (`Report.HasForm.isTrace`).

At a higher level fewer lines are written. `Journal.atLevel` is the journal as it would be if its level had been another
one from the start, and reports are the same to it: what is written at that level is what reaches it of all that is
reported (`Journal.reported_atLevel`).
-/

namespace Shroud

/-! ### Reports -/

/-- Whether a message reads as the end of an operation. -/
def isTerminal (message : String) : Bool :=
  " completed".toList.isSuffixOf message.toList || " failed".toList.isSuffixOf message.toList

/-- **A notice that can stand inside an operation**: it leaves its line the names under which the operation is carried,
and does not read as the end of one. -/
structure Notice.IsRemark (n : Notice) : Prop where
  plain : ∀ name ∈ LogFormat.operationFields, n.fields.lookup name = none
  inner : isTerminal n.message = false

/-- **What a call leaves in the journal.** -/
inductive Report where
  /-- Lines outside of any operation. -/
  | outside (notices : List Notice)
  /-- An operation with the lines noted inside it, and the way it ended. -/
  | operation (name : String) (notices : List Notice) (ending : Option FaultKind)

/-- **A report of a given form**: of an operation with a name or of none, which ended in a way, and in which all lines
but the last are remarks. -/
inductive Report.HasForm (ending : Option FaultKind) : Option String → Report → Prop where
  | outside {notices : List Notice} (h : ∀ n ∈ notices, n.IsRemark) : HasForm ending none (.outside notices)
  | operation {name : String} {notices : List Notice} (h : ∀ n ∈ notices, n.IsRemark) :
      HasForm ending (some name) (.operation name notices ending)

namespace Journal

variable {s : Surroundings} {j : Journal} {logger : String} {ending : Option FaultKind}

/-- The journal after a report. -/
def reported (j : Journal) (s : Surroundings) (logger : String) : Report → Journal
  | .outside notices => j.noteAll s logger notices
  | .operation name notices ending => j.operated s logger name notices ending

/-- The entries that are written of a report. -/
def entriesOfReport (j : Journal) (s : Surroundings) (logger : String) : Report → List Entry
  | .outside notices => j.entriesOf s logger notices
  | .operation name notices ending =>
    (j.inside s name).entriesOf s logger (notices ++ [.closing name (j.spent s) ending])

/-- Reports leave the set-up alone. -/
@[simp] theorem setup_reported (report : Report) : (j.reported s logger report).setup = j.setup := by
  cases report with
  | outside notices => rw [reported, noteAll_eq]
  | operation name notices ending => rfl

/-- Every operation that a report opens is closed again. -/
@[simp] theorem operations_reported (report : Report) : (j.reported s logger report).operations = j.operations := by
  cases report with
  | outside notices => rw [reported, noteAll_eq]
  | operation name notices ending => rfl

/-- A journal gets the entries of the report behind its own. -/
theorem entries_reported (report : Report) :
    (j.reported s logger report).entries = j.entries ++ j.entriesOfReport s logger report := by
  cases report with
  | outside notices => rw [reported, noteAll_eq, entriesOfReport]
  | operation name notices ending => rfl

/-- A report of an operation opens one, and no other does. -/
theorem opened_reported {name? : Option String} {report : Report} (h : report.HasForm ending name?) :
    (j.reported s logger report).opened = j.opened + (if name?.isSome then 1 else 0) := by
  cases h with
  | outside h => rw [reported, noteAll_eq]; rfl
  | operation h => rfl

/-! ### The lowest level -/

/-- The log is set up to write every line, however little severe. -/
def AtDebug (j : Journal) : Prop :=
  ∃ setup, j.setup = some setup ∧ setup.level = Severity.debug.number

/-- At the lowest level every notice of the package is admitted. -/
theorem AtDebug.admits (h : j.AtDebug) (hlogger : isPackageLogger logger = true) (n : Notice) :
    j.admits logger n = true := by
  obtain ⟨setup, hsetup, hlevel⟩ := h
  have hthreshold : setup.threshold = 10 := by
    rw [LogSetup.threshold, hlevel]
    rfl
  unfold Journal.admits isEnabled
  rw [if_pos hlogger, hsetup]
  change decide (setup.threshold ≤ n.severity.number) = true
  rw [hthreshold]
  cases n.severity <;> rfl

theorem AtDebug.entriesOf_eq (h : j.AtDebug) (hlogger : isPackageLogger logger = true) (notices : List Notice) :
    j.entriesOf s logger notices
      = notices.map fun n =>
        { record := n.record s logger, operation := j.operations.head?, formats := j.formats logger } := by
  unfold entriesOf
  rw [List.filter_eq_self.mpr fun n _ => h.admits hlogger n]

end Journal

/-! ### Traces -/

namespace Entry

/-- The message of an entry. -/
def message (l : Entry) : Except RenderFault String :=
  Template.render l.record.template l.record.arguments

/-- **An entry carries an operation**, or none: it was written inside it, and its lines say so. The JSON object has the
identifier and the name. The line for people has the mark of the operation before its message, which shows the first
eight characters of the identifier; the name has no place in it. -/
structure Carries (l : Entry) (operation : Option Operation) : Prop where
  written_in : l.operation = operation
  json : ∀ now entries, LogFormat.jsonEntries now l.operation l.record = .ok entries →
    entries.lookup "operation_id" = operation.map (Value.text ·.id)
      ∧ entries.lookup "operation" = operation.map (Value.text ·.name)
  human : ∀ now line, LogFormat.asHuman now l.operation l.record = .ok line →
    ∃ message behind, l.message = .ok message
      ∧ LogFormat.beforeMessage now operation l.record ++ message ++ behind = line

/-- An entry whose message reads as the end of an operation. -/
def IsTerminal (l : Entry) : Prop :=
  ∃ text, l.message = .ok text ∧ isTerminal text = true

/-- **How an operation ended, as an entry tells**: that it completed, or that it failed and with which kind. -/
def Ends (l : Entry) (name : String) : Option FaultKind → Prop
  | none => l.record.level = Severity.debug.number ∧ l.message = .ok (name ++ " completed")
  | some kind => l.record.level = Severity.info.number ∧ l.message = .ok (name ++ " failed")
      ∧ l.record.fields.lookup "error_type" = some (.text kind.name)

/-- Every handler writes the entry in its format, at any moment. -/
def IsWritten (l : Entry) : Prop :=
  ∀ format now, ∃ text, l.printoutIn now format = .line text

end Entry

/-- **The trace of a call** that got to an operation or to none, and that ended in a way. -/
inductive IsTrace (ending : Option FaultKind) : Option Operation → List Entry → Prop where
  /-- No line carries an operation, and none reads as the end of one. -/
  | outside {entries : List Entry} (carried : ∀ l ∈ entries, l.Carries none) (inner : ∀ l ∈ entries, ¬l.IsTerminal) :
      IsTrace ending none entries
  /-- All lines carry the operation. The last tells how it ended, and no other reads as the end of one. -/
  | operation {o : Operation} {entries : List Entry} {last : Entry}
      (carried : ∀ l ∈ entries ++ [last], l.Carries (some o)) (inner : ∀ l ∈ entries, ¬l.IsTerminal)
      (ended : last.Ends o.name ending) (written : last.IsWritten) :
      IsTrace ending (some o) (entries ++ [last])

namespace Notice

variable {s : Surroundings} {logger name : String} {ending : Option FaultKind} {n : Notice}

/-- A notice whose fields have other names carries the operation that it was made in. -/
theorem carries_record {operation : Option Operation}
    (hnamed : ∀ o, operation = some o → o.id ≠ "" ∧ o.name ≠ "")
    (hplain : ∀ field ∈ LogFormat.operationFields, n.fields.lookup field = none) (formats : List LogFormat) :
    ({ record := n.record s logger, operation, formats } : Entry).Carries operation where
  written_in := rfl
  json _ _ h := LogFormat.lookup_jsonEntries hplain hnamed h
  human now line h := by
    obtain ⟨text, message, -, hmessage, rfl⟩ := LogFormat.asHuman_eq_ok_iff.mp h
    exact ⟨message, text ++ LogFormat.incidentText (n.record s logger), hmessage, by rw [← String.append_assoc]⟩

theorem message_record (operation : Option Operation) (formats : List LogFormat) :
    ({ record := n.record s logger, operation, formats } : Entry).message = .ok n.message := rfl

/-- Remarks do not end an operation. -/
theorem IsRemark.not_isTerminal (h : n.IsRemark) (operation : Option Operation) (formats : List LogFormat) :
    ¬({ record := n.record s logger, operation, formats } : Entry).IsTerminal := by
  rintro ⟨text, hmessage, hterminal⟩
  obtain rfl := Except.ok.inj (hmessage.symm.trans (message_record operation formats))
  rw [h.inner] at hterminal
  exact absurd hterminal Bool.false_ne_true

/-- A notice that closes an operation leaves the names free under which the operation is carried. -/
theorem plain_closing (spent : Value) :
    ∀ field ∈ LogFormat.operationFields, (closing name spent ending).fields.lookup field = none := by
  intro field hfield
  simp only [LogFormat.operationFields, List.mem_cons, List.not_mem_nil, or_false] at hfield
  obtain rfl | rfl := hfield <;> cases ending <;> rfl

/-- The last notice of an operation ends it, and tells how. -/
theorem ends_closing (spent : Value) (operation : Option Operation) (formats : List LogFormat) :
    ({ record := (closing name spent ending).record s logger, operation, formats } : Entry).Ends name ending := by
  cases ending with
  | none => exact ⟨rfl, rfl⟩
  | some kind => exact ⟨rfl, rfl, rfl⟩

/-- **The last notice of an operation can always be written**, in every format. -/
theorem isWritten_closing (j : Journal) (operation : Option Operation) (formats : List LogFormat) :
    ({ record := (closing name (j.spent s) ending).record s logger, operation, formats } : Entry).IsWritten := by
  intro format now
  -- the only field that is neither text nor number is the time that was spent
  have hspent : (j.spent s).IsSimple := .float _
  obtain ⟨text, htext⟩ : ∃ text, format.render now operation ((closing name (j.spent s) ending).record s logger)
      = .ok text := by
    refine LogFormat.exists_render rfl ?_ rfl ?_ format now operation
    · -- both levels lie below the one from which a source line is written
      cases ending with
      | none => exact List.forall_mem_singleton.mpr hspent
      | some kind => exact List.forall_mem_cons.mpr ⟨.text _, List.forall_mem_singleton.mpr hspent⟩
    · have hinfo : (Severity.info.number : Int) < LogFormat.sourceLevel := by decide
      have hdebug : (Severity.debug.number : Int) < LogFormat.sourceLevel := by decide
      cases ending with
      | none => exact hdebug
      | some kind => exact hinfo
  exact ⟨text, Entry.printoutIn_eq_line_iff.mpr ⟨rfl, htext⟩⟩

end Notice

/-- **The lines of a report form a trace**, when every line is written and no operation was open before. -/
theorem Report.HasForm.isTrace {s : Surroundings} {j : Journal} {logger : String} {ending : Option FaultKind}
    {name? : Option String} {report : Report} (h : report.HasForm ending name?) (hdebug : j.AtDebug)
    (hlogger : isPackageLogger logger = true) (hoperations : j.operations = [])
    (hid : s.operationId j.opened ≠ "") (hname : ∀ name, name? = some name → name ≠ "") :
    IsTrace ending (name?.map fun name => ⟨s.operationId j.opened, name⟩) (j.entriesOfReport s logger report) := by
  cases h with
  | @outside notices hremarks =>
    have hentries : j.entriesOfReport s logger (.outside notices) = _ := hdebug.entriesOf_eq hlogger notices
    rw [hentries, hoperations]
    refine .outside ?_ ?_
    · intro l hl
      -- entries are notices of the report, and so they inherit what is known of these
      obtain ⟨n, hn, rfl⟩ := List.mem_map.mp hl
      exact n.carries_record (fun _ ho => absurd ho (by simp)) (hremarks n hn).plain _
    · intro l hl
      obtain ⟨n, hn, rfl⟩ := List.mem_map.mp hl
      exact (hremarks n hn).not_isTerminal _ _
  | @operation name notices hremarks =>
    -- inside the operation the level is what it was, so all its lines are written
    have hinside : (j.inside s name).AtDebug := hdebug
    have hentries := hinside.entriesOf_eq (s := s) hlogger (notices ++ [.closing name (j.spent s) ending])
    have hnamed : ∀ o, some (⟨s.operationId j.opened, name⟩ : Operation) = some o → o.id ≠ "" ∧ o.name ≠ "" := by
      intro o ho
      obtain rfl := Option.some.inj ho
      exact ⟨hid, hname name rfl⟩
    rw [Journal.entriesOfReport, hentries, List.map_append, List.map_singleton]
    refine .operation ?_ ?_ (Notice.ends_closing _ _ _) (Notice.isWritten_closing j _ _)
    · intro l hl
      obtain hl | hl := List.mem_append.mp hl
      · obtain ⟨n, hn, rfl⟩ := List.mem_map.mp hl
        exact n.carries_record hnamed (hremarks n hn).plain _
      · rw [List.mem_singleton.mp hl]
        exact Notice.carries_record hnamed (Notice.plain_closing _) _
    · intro l hl
      obtain ⟨n, hn, rfl⟩ := List.mem_map.mp hl
      exact (hremarks n hn).not_isTerminal _ _

/-! ### Other levels -/

/-- Whether an entry is at or above the level that counts when a level is set. -/
def Entry.reaches (level : Nat) (l : Entry) : Bool :=
  ((⟨level, [], false⟩ : LogSetup).threshold : Int) ≤ l.record.level

namespace Journal

variable {s : Surroundings} {j : Journal} {logger : String}

/-- **The journal at another level**, as it would be had this been its level from the start. -/
def atLevel (level : Nat) (j : Journal) : Journal :=
  { j with
    setup := j.setup.map fun setup => { setup with level }
    entries := j.entries.filter (·.reaches level) }

/-- What is written of notices at another level is what reaches it. -/
theorem entriesOf_atLevel (hdebug : j.AtDebug) (hlogger : isPackageLogger logger = true) (level : Nat)
    (notices : List Notice) :
    (j.atLevel level).entriesOf s logger notices
      = (j.entriesOf s logger notices).filter (·.reaches level) := by
  rw [hdebug.entriesOf_eq hlogger, List.filter_map]
  obtain ⟨setup, hsetup, -⟩ := hdebug
  -- a level admits what reaches it, so raising the level is to filter the entries
  have hadmits : (j.atLevel level).admits logger
      = (fun l : Entry => l.reaches level) ∘ fun n =>
        { record := n.record s logger, operation := j.operations.head?, formats := j.formats logger } := by
    funext n
    unfold admits isEnabled atLevel
    rw [if_pos hlogger, hsetup]
    exact decide_eq_decide.mpr Int.ofNat_le.symm
  have hformats : (j.atLevel level).formats logger = j.formats logger := by
    unfold formats atLevel
    rw [hsetup]
    rfl
  unfold entriesOf
  rw [hadmits, hformats]
  rfl

/-- **Reports are the same at every level**, up to the lines that do not reach it. -/
theorem reported_atLevel (hdebug : j.AtDebug) (hlogger : isPackageLogger logger = true) (level : Nat)
    (report : Report) :
    (j.atLevel level).reported s logger report = (j.reported s logger report).atLevel level := by
  cases report with
  | outside notices =>
    simp only [reported, noteAll_eq, entriesOf_atLevel hdebug hlogger]
    simp only [atLevel, List.filter_append]
  | operation name notices ending =>
    -- opening the operation leaves the level as it is
    have hinside : (j.inside s name).AtDebug := hdebug
    have hentries := entriesOf_atLevel (s := s) hinside hlogger level
      (notices ++ [.closing name (j.spent s) ending])
    have hwritten : (j.operated s logger name notices ending).atLevel level
        = { (j.atLevel level).operated s logger name notices ending with
            entries := (j.entries ++ (j.inside s name).entriesOf s logger
              (notices ++ [.closing name (j.spent s) ending])).filter (·.reaches level) } := rfl
    rw [reported, reported, hwritten, List.filter_append, ← hentries]
    rfl

end Journal

end Shroud
