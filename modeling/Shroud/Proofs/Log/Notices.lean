import Shroud.Log.Logger

/-!
# What is written of notices

A handler leaves one printout of each entry that is passed to it: the record in its format, or a report in its stead
(`Entry.printoutIn_eq_line_iff`, `Entry.printoutIn_of_unwritable`).

A `Notice` is a line that somebody asks for, without the surroundings in which it may be written. What becomes
of a row of notices depends on the log in four ways only: how it is set up, which operation is open, the place
in the program, and the moment. `Journal.noteAll_eq` says this as an equation: noting a row of notices adds
the entries `Journal.entriesOf` to the journal and changes nothing else.

An operation that notes a row of notices and is closed is `Journal.operated`: the closing notice joins the
others, all of them written inside the operation, and afterwards the same operations are open as before.

`Journal.Alike` relates two logs that go on in the same way, whatever was written to them so far. Alike logs
give the same entries for the same notices, so two runs can be compared by what they ask for
(`Journal.Alike.sameLines_noteAll`, `Journal.Alike.sameLines_operated`).
-/

namespace Shroud

/-- Surroundings in which identifiers are numbers. -/
def Surroundings.numbered : Surroundings where
  random _ := 0
  operationId n := Decimal.ofInt n
  clock _ := 0
  now := ⟨2024, 1, 2, 3, 4, 5, 678900⟩
  source := .null

/-- **A line that is asked for**, before it is known whether its level is enabled. -/
structure Notice where
  severity : Severity
  message : String
  fields : Fields

namespace Notice

/-- The record of a notice. -/
def record (n : Notice) (s : Surroundings) (logger : String) : Record where
  logger
  level := n.severity.number
  template := n.message
  fields := n.fields
  source := s.source

/-- The notice that closes an operation: that it completed, or the kind of the failure that ended it. -/
def closing (name : String) (spent : Value) : Option FaultKind → Notice
  | none => ⟨.debug, name ++ " completed", [("duration_ms", spent)]⟩
  | some kind => ⟨.info, name ++ " failed", [("error_type", .text kind.name), ("duration_ms", spent)]⟩

end Notice

/-! ### What handlers leave -/

namespace Entry

variable {e : Entry} {now : Moment} {format : LogFormat}

/-- **A handler writes the entry** exactly if its format can have it and has a text for it. -/
theorem printoutIn_eq_line_iff {text : String} :
    e.printoutIn now format = .line text
      ↔ e.suits format = true ∧ format.render now e.operation e.record = .ok text := by
  unfold printoutIn LogFormat.printout
  cases e.suits format <;> cases format.render now e.operation e.record <;> simp

/-- **Otherwise it leaves a report** in its stead. -/
theorem printoutIn_of_unwritable
    (h : e.suits format = true → ∃ fault, format.render now e.operation e.record = .error fault) :
    e.printoutIn now format = .report e.record.report := by
  cases hsuits : e.suits format with
  | false => rw [printoutIn, hsuits, if_neg Bool.false_ne_true]
  | true =>
    obtain ⟨fault, hfault⟩ := h hsuits
    rw [printoutIn, if_pos hsuits, LogFormat.printout, hfault]

end Entry

namespace Journal

variable {s s' : Surroundings} {j j' : Journal} {logger : String} {notices : List Notice}

/-! ### Rows of notices -/

/-- The journal after notices, one after another. -/
def noteAll (j : Journal) (s : Surroundings) (logger : String) (notices : List Notice) : Journal :=
  notices.foldl (fun j n => j.note s logger n.severity n.message n.fields) j

/-- Whether the level of a notice is enabled. -/
def admits (j : Journal) (logger : String) (n : Notice) : Bool :=
  j.isEnabled logger n.severity.number

/-- The entries that are written of notices. -/
def entriesOf (j : Journal) (s : Surroundings) (logger : String) (notices : List Notice) : List Entry :=
  (notices.filter (j.admits logger)).map fun n =>
    { record := n.record s logger, operation := j.operations.head?, formats := j.formats logger }

@[simp] theorem noteAll_nil : j.noteAll s logger [] = j := rfl

theorem noteAll_append (notices' : List Notice) :
    j.noteAll s logger (notices ++ notices') = (j.noteAll s logger notices).noteAll s logger notices' :=
  List.foldl_append

theorem entriesOf_append (notices' : List Notice) :
    j.entriesOf s logger (notices ++ notices')
      = j.entriesOf s logger notices ++ j.entriesOf s logger notices' := by
  unfold entriesOf
  rw [List.filter_append, List.map_append]

/-- Writing one notice adds its entry, if the level admits it. -/
theorem note_eq (n : Notice) :
    j.note s logger n.severity n.message n.fields
      = { j with entries := j.entries ++ j.entriesOf s logger [n] } := by
  unfold note entriesOf
  change (if j.admits logger n then _ else j) = _
  by_cases hadmits : j.admits logger n
  · rw [if_pos hadmits, List.filter_cons_of_pos hadmits]
    rfl
  · rw [if_neg hadmits, List.filter_cons_of_neg hadmits]
    simp

/-- **Noting adds entries** and changes nothing else. -/
theorem noteAll_eq (j : Journal) (s : Surroundings) (logger : String) (notices : List Notice) :
    j.noteAll s logger notices = { j with entries := j.entries ++ j.entriesOf s logger notices } := by
  induction notices generalizing j with
  | nil => simp [entriesOf]
  | cons n notices ih =>
    change (j.note s logger n.severity n.message n.fields).noteAll s logger notices = _
    rw [note_eq, ih]
    -- the first notice is written into a journal that differs in its entries, which are not looked at
    change { j with entries := (j.entries ++ j.entriesOf s logger [n]) ++ j.entriesOf s logger notices } = _
    rw [List.append_assoc, ← entriesOf_append, List.singleton_append]

/-- **What a call of a logger can do.** It is refused, it is below what is passed on, or its record is passed to every
handler of the logger, with the formats that can have it. -/
theorem call_cases (j : Journal) (s : Surroundings) (c : LogCall) :
    (∃ misuse, j.call s c = (.error (.misuse misuse), j))
      ∨ (j.isEnabled c.logger c.method.severity.number = false ∧ j.call s c = (.ok (), j))
      ∨ (j.isEnabled c.logger c.method.severity.number = true
        ∧ j.call s c = (.ok (), j.write (c.record s) c.fits)) := by
  unfold call
  -- the clash with a parameter comes first, then the level, and then how the logger was made
  cases c.hasField ["msg", "self"] with
  | true => exact .inl ⟨.fieldClash, rfl⟩
  | false =>
    cases j.isEnabled c.logger c.method.severity.number with
    | false => exact .inr (.inl ⟨rfl, rfl⟩)
    | true =>
      cases c.misuse? with
      | some misuse => exact .inl ⟨misuse, rfl⟩
      | none => exact .inr (.inr ⟨rfl, rfl⟩)

/-- **A call of a logger that is in order** is a notice: one with the severity and the record of the call. -/
theorem call_eq_noteAll {k : LogCall} {n : Notice} (hfields : k.hasField ["msg", "self"] = false)
    (hmisuse : k.misuse? = none) (hfits : ∀ format, k.fits format)
    (hseverity : k.method.severity = n.severity) (hrecord : k.record s = n.record s k.logger) :
    j.call s k = (.ok (), j.noteAll s k.logger [n]) := by
  change j.call s k = (.ok (), j.note s k.logger n.severity n.message n.fields)
  have hsuits : k.fits = fun _ => true := funext hfits
  unfold call note
  rw [hfields, hmisuse, hsuits, hseverity, hrecord, if_neg Bool.false_ne_true]
  cases j.isEnabled k.logger n.severity.number <;> rfl

/-! ### Notices inside an operation -/

/-- The journal with one more open operation. -/
def inside (j : Journal) (s : Surroundings) (name : String) : Journal :=
  { j with operations := ⟨s.operationId j.opened, name⟩ :: j.operations }

/-- The time between the next two readings of the clock. -/
def spent (j : Journal) (s : Surroundings) : Value :=
  duration (s.clock j.ticks) (s.clock (j.ticks + 1))

/-- **The journal after an operation** in which notices are noted, and which ends in a way. -/
def operated (j : Journal) (s : Surroundings) (logger name : String) (notices : List Notice)
    (ending : Option FaultKind) : Journal :=
  { j with
    entries := j.entries
      ++ (j.inside s name).entriesOf s logger (notices ++ [.closing name (j.spent s) ending])
    opened := j.opened + 1
    ticks := j.ticks + 2 }

/-- An operation step by step: it is opened between two readings of the clock, and closed by its notice. -/
theorem leave_closed_eq_operated (j : Journal) (s : Surroundings) (logger name : String)
    (notices : List Notice) (ending : Option FaultKind) {worked : Journal}
    (hworked : worked = ((j.tick s).2.enter s name).noteAll s logger notices) :
    ((worked.tick s).2.noteAll s logger
        [.closing name (duration (j.tick s).1 (worked.tick s).1) ending]).leave
      = j.operated s logger name notices ending := by
  rw [hworked, noteAll_eq, noteAll_eq]
  -- both notings are written in the state of the operation, which differs from it in entries and ticks only
  rw [operated, entriesOf_append, ← List.append_assoc]
  rfl

/-! ### Two logs -/

/-- **Two logs that go on alike**: they are set up in the same way and have the same operations open, and
from now on get the same identifiers, the same readings of the clock, and the same moment and place. -/
structure Alike (s : Surroundings) (j : Journal) (s' : Surroundings) (j' : Journal) : Prop where
  setup : j.setup = j'.setup
  operations : j.operations = j'.operations
  identifier : ∀ n, s.operationId (j.opened + n) = s'.operationId (j'.opened + n)
  clock : ∀ n, s.clock (j.ticks + n) = s'.clock (j'.ticks + n)
  now : s.now = s'.now
  source : s.source = s'.source

/-- **The same lines were written** from the first journal to the second as from the third to the fourth. -/
def SameLines (s : Surroundings) (before after : Journal) (s' : Surroundings) (before' after' : Journal) :
    Prop :=
  ∃ lines, after.lines s.now = before.lines s.now ++ lines
    ∧ after'.lines s'.now = before'.lines s'.now ++ lines

/-- Journals that got the same entries got the same lines. -/
theorem SameLines.of_entries {after after' : Journal} {entries : List Entry} (hnow : s.now = s'.now)
    (h : after.entries = j.entries ++ entries) (h' : after'.entries = j'.entries ++ entries) :
    SameLines s j after s' j' after' := by
  refine ⟨(entries.flatMap (·.printouts s.now)).flatMap Printout.lines, ?_, ?_⟩
  · rw [lines, printouts, h, List.flatMap_append, List.flatMap_append, lines, printouts]
  · rw [lines, printouts, h', List.flatMap_append, List.flatMap_append, lines, printouts, hnow]

namespace Alike

/-- **Alike journals make the same entries of the same notices.** -/
theorem entriesOf_eq (h : Alike s j s' j') (logger : String) (notices : List Notice) :
    j.entriesOf s logger notices = j'.entriesOf s' logger notices := by
  have hsetup := h.setup
  have hoperations := h.operations
  have hsource := h.source
  unfold entriesOf Notice.record admits isEnabled formats
  rw [hsetup, hoperations, hsource]

/-- Alike journals stay alike inside an operation. -/
theorem inside (h : Alike s j s' j') (name : String) :
    Alike s (j.inside s name) s' (j'.inside s' name) where
  setup := h.setup
  operations := by
    -- the operation has the next identifier, which is the same in both
    have hid := h.identifier 0
    have hoperations := h.operations
    unfold Journal.inside
    rw [Nat.add_zero, Nat.add_zero] at hid
    rw [hid, hoperations]
  identifier := h.identifier
  clock := h.clock
  now := h.now
  source := h.source

/-- Alike journals measure the same time. -/
theorem spent_eq (h : Alike s j s' j') : j.spent s = j'.spent s' := by
  have hstart := h.clock 0
  have hstop := h.clock 1
  rw [Nat.add_zero, Nat.add_zero] at hstart
  rw [spent, spent, hstart, hstop]

/-- **The same notices give the same lines.** -/
theorem sameLines_noteAll (h : Alike s j s' j') (logger : String) (notices : List Notice) :
    SameLines s j (j.noteAll s logger notices) s' j' (j'.noteAll s' logger notices) := by
  have hentries : (j.noteAll s logger notices).entries = j.entries ++ j.entriesOf s logger notices := by
    rw [noteAll_eq]
  refine .of_entries h.now hentries ?_
  rw [noteAll_eq, h.entriesOf_eq]

/-- **Operations of one name** that note the same and end in the same way give the same lines. -/
theorem sameLines_operated (h : Alike s j s' j') (logger name : String) (notices : List Notice)
    (ending : Option FaultKind) :
    SameLines s j (j.operated s logger name notices ending)
      s' j' (j'.operated s' logger name notices ending) := by
  refine .of_entries h.now rfl ?_
  rw [operated, (h.inside name).entriesOf_eq, h.spent_eq]

end Alike

end Journal

end Shroud
