import Shroud.Proofs.Log.Notices
import Shroud.Session

/-!
# The last set-up that succeeded decides

Setting up the log either fails, and then the log is as it was, or it puts what was asked for in the place of what there
was (`Session.setUpLog_cases`). What is asked for can be told without the log: a level by `AsksLevel`, a format by
`askedFormat`.

`LogStep` are the steps of a program that has to do with the log: it sets it up, calls loggers, opens and closes
operations, changes the environment, and has the settings read again. `Session.lastSetUp?` finds the last set-up in a
row of steps that succeeded. All others leave no trace in how the log is set up (`Session.setup_after`), so there is
one handler at most. `Session.last_setUp_decides` says what it leaves of the calls that come then: of each that reaches
the level the line in its format or, if the record cannot be written in it, a report in the place of the line.
-/

namespace Shroud

/-! ### What is asked for -/

/-- **The level that a value asks for**: that of the settings if it is null, otherwise the one it names. -/
inductive AsksLevel (settings : Settings) : Value → Nat → Prop where
  | ofSettings : AsksLevel settings .null settings.logLevel.number
  | named {v : Value} {name : String} {level : Nat} (hname : v.text? = some name)
      (hlevel : Level.named.lookup (Text.upper name) = some level) : AsksLevel settings v level

/-- The format that a value asks for. -/
def askedFormat (settings : Settings) : Value → LogFormat
  | .null => if settings.logJson then .json else .human
  | v => if v.isTrue then .json else .human

/-- A level is found by its name in capitals. -/
theorem Level.ofName_eq_ok_iff {name : String} {level : Nat} :
    ofName name = .ok level ↔ named.lookup (Text.upper name) = some level := by
  unfold ofName
  dsimp only
  cases named.lookup (Text.upper name) <;> simp

theorem Level.ofValue_eq_ok_iff {v : Value} {level : Nat} :
    ofValue v = .ok level ↔ ∃ name, v.text? = some name ∧ named.lookup (Text.upper name) = some level := by
  cases v <;> simp [ofValue, Value.text?, ofName_eq_ok_iff]

/-- The level that is looked up for a value. -/
def askedLevel (settings : Settings) : Value → Except Failure Nat
  | .null => .ok settings.logLevel.number
  | v => Level.ofValue v

/-- It is the level that the value asks for. -/
theorem askedLevel_eq_ok_iff {settings : Settings} {v : Value} {level : Nat} :
    askedLevel settings v = .ok level ↔ AsksLevel settings v level := by
  constructor
  · intro h
    unfold askedLevel at h
    split at h
    · obtain rfl := Except.ok.inj h
      exact .ofSettings
    · obtain ⟨_, hname, hlevel⟩ := Level.ofValue_eq_ok_iff.mp h
      exact .named hname hlevel
  · rintro (_ | ⟨hname, hlevel⟩)
    · rfl
    · have hvalue := Level.ofValue_eq_ok_iff.mpr ⟨_, hname, hlevel⟩
      cases v with
      -- without a value the settings give the level
      | null => exact nomatch hname
      | _ => exact hvalue

/-! ### Setting up -/

/-- A call that sets up the log, in the session in which it is made. -/
structure SetUp where
  session : Session
  json : Value
  level : Value

/-- A set-up asks for a level and a format if the settings can be read, and these are the ones. -/
def SetUp.Asks (u : SetUp) (level : Nat) (format : LogFormat) : Prop :=
  ∃ settings, u.session.settings.1 = .ok settings ∧ AsksLevel settings u.level level
    ∧ askedFormat settings u.json = format

namespace Session

/-- Settings that are read leave the journal alone. -/
theorem journal_settings (s : Session) : s.settings.2.journal = s.journal := by
  unfold Session.settings
  split
  · rfl
  · split <;> rfl

/-- With settings that can be read, setting up the log depends on the level that is asked for. -/
theorem setUpLog_of_settings {s after : Session} {settings : Settings} (h : s.settings = (.ok settings, after))
    (json level : Value) :
    s.setUpLog json level = match askedLevel settings level with
      | .error failure => (.error failure, after)
      | .ok number => (.ok (), { after with journal :=
          { after.journal with setup := some ⟨number, [askedFormat settings json], false⟩ } }) := by
  unfold setUpLog
  rw [h]
  cases json <;> rfl

/-- A set-up that succeeds asks for a level and a format, and the log is set to them; one that fails asks for nothing
and leaves the log as it was. -/
theorem setUpLog_cases (s : Session) (json level : Value) :
    (∃ number format after, SetUp.Asks ⟨s, json, level⟩ number format ∧ s.setUpLog json level = (.ok (), after)
        ∧ after.journal = { s.journal with setup := some ⟨number, [format], false⟩ })
      ∨ ((¬ ∃ number format, SetUp.Asks ⟨s, json, level⟩ number format)
        ∧ ∃ failure after, s.setUpLog json level = (.error failure, after) ∧ after.journal = s.journal) := by
  have hjournal := s.journal_settings
  cases hsettings : s.settings with
  | mk read after =>
    have hread : s.settings.1 = read := congrArg Prod.fst hsettings
    rw [hsettings] at hjournal
    cases read with
    | error failure =>
      refine .inr ⟨?_, failure, after, ?_, hjournal⟩
      · rintro ⟨_, _, _, hsome, _, _⟩
        cases hread.symm.trans hsome
      · rw [setUpLog, hsettings]
    | ok settings =>
      rw [setUpLog_of_settings hsettings]
      cases hasked : askedLevel settings level with
      | error failure =>
        refine .inr ⟨?_, failure, after, rfl, hjournal⟩
        rintro ⟨number, _, _, hsome, hlevel, _⟩
        -- the settings that are asked are those that were read
        cases hread.symm.trans hsome
        cases hasked.symm.trans (askedLevel_eq_ok_iff.mpr hlevel)
      | ok number =>
        refine .inl ⟨number, askedFormat settings json, _, ?_, rfl, ?_⟩
        · exact ⟨settings, hread, askedLevel_eq_ok_iff.mp hasked, rfl⟩
        · dsimp only
          rw [hjournal]

/-- **A set-up succeeds exactly if it asks for something.** -/
theorem setUpLog_eq_ok_iff {s : Session} {json level : Value} :
    (s.setUpLog json level).1 = .ok () ↔ ∃ number format, SetUp.Asks ⟨s, json, level⟩ number format := by
  obtain ⟨number, format, _, hasks, hsetUp, _⟩ | ⟨hnone, _, _, hsetUp, _⟩ := s.setUpLog_cases json level
  · rw [hsetUp]
    exact ⟨fun _ => ⟨number, format, hasks⟩, fun _ => rfl⟩
  · rw [hsetUp]
    exact ⟨fun h => absurd h (by simp), fun h => absurd h hnone⟩

/-- **A set-up that fails leaves the log as it was.** -/
theorem journal_of_setUpLog_error {s : Session} {json level : Value} {failure : Failure}
    (h : (s.setUpLog json level).1 = .error failure) : (s.setUpLog json level).2.journal = s.journal := by
  obtain ⟨_, _, _, _, hsetUp, _⟩ | ⟨_, _, _, hsetUp, hjournal⟩ := s.setUpLog_cases json level
  · rw [hsetUp] at h
    cases h
  · rw [hsetUp, hjournal]

end Session

/-! ### Rows of steps -/

/-- A step of a program that has to do with the log. -/
inductive LogStep where
  /-- The log is set up. -/
  | setUp (json level : Value)
  /-- A logger is called. -/
  | call (c : LogCall)
  /-- An operation is opened. -/
  | enter (name : String)
  /-- The innermost operation is closed. -/
  | leave
  /-- Variables of the environment are set. -/
  | setVariables (added : List (String × String))
  /-- The settings are to be read again. -/
  | forget

/-- The set-up that a step is, if it succeeds. -/
def LogStep.setUp? (s : Session) : LogStep → Option SetUp
  | setUp json level =>
    match (s.setUpLog json level).1 with
    | .ok () => some ⟨s, json, level⟩
    | .error _ => none
  | _ => none

namespace Session

/-- The session after a step. -/
def perform (around : Surroundings) (s : Session) : LogStep → Session
  | .setUp json level => (s.setUpLog json level).2
  | .call c => { s with journal := (s.journal.call around c).2 }
  | .enter name => { s with journal := s.journal.enter around name }
  | .leave => { s with journal := s.journal.leave }
  | .setVariables added => s.setVariables added
  | .forget => s.forget

/-- The session after a row of steps. -/
def after (around : Surroundings) (s : Session) (steps : List LogStep) : Session :=
  steps.foldl (perform around) s

/-- **The last set-up that succeeded** in a row of steps. -/
def lastSetUp? (around : Surroundings) : Session → List LogStep → Option SetUp
  | _, [] => none
  | s, step :: rest => (lastSetUp? around (s.perform around step) rest).or (step.setUp? s)

/-- **How the log is set up after set-ups**: as the last of them asks for, if there is one, and as before otherwise. -/
inductive SetBy (before : Option LogSetup) : Option SetUp → Option LogSetup → Prop where
  | unchanged : SetBy before none before
  | asked {u : SetUp} {level : Nat} {format : LogFormat} (h : u.Asks level format) :
    SetBy before (some u) (some ⟨level, [format], false⟩)

/-- One step sets up the log if it is a set-up that succeeds, and no other does. -/
theorem setup_perform (around : Surroundings) (s : Session) (step : LogStep) :
    SetBy s.journal.setup (step.setUp? s) (s.perform around step).journal.setup := by
  cases step with
  | setUp json level =>
    obtain ⟨_, _, _, hasks, hsetUp, hjournal⟩ | ⟨_, _, _, hsetUp, hjournal⟩ := s.setUpLog_cases json level
    · rw [LogStep.setUp?, perform, hsetUp, hjournal]
      exact .asked hasks
    · rw [LogStep.setUp?, perform, hsetUp, hjournal]
      exact .unchanged
  | call c =>
    -- calls write lines, but never a set-up
    have hsetup : (s.journal.call around c).2.setup = s.journal.setup := by
      obtain ⟨_, hcall⟩ | ⟨_, hcall⟩ | ⟨_, hcall⟩ := s.journal.call_cases around c
      · rw [hcall]
      · rw [hcall]
      · rw [hcall, Journal.write]
    rw [perform, hsetup]
    exact .unchanged
  | enter name => exact .unchanged
  | leave => exact .unchanged
  | setVariables added => exact .unchanged
  | forget => exact .unchanged

theorem SetBy.trans {before between behind : Option LogSetup} {first next : Option SetUp}
    (hfirst : SetBy before first between) (hnext : SetBy between next behind) :
    SetBy before (next.or first) behind := by
  cases hnext with
  | unchanged => exact hfirst
  | asked h => exact .asked h

/-- **Only the last set-up that succeeded counts.** -/
theorem setup_after (around : Surroundings) (s : Session) (steps : List LogStep) :
    SetBy s.journal.setup (lastSetUp? around s steps) (s.after around steps).journal.setup := by
  induction steps generalizing s with
  | nil => exact .unchanged
  | cons step rest ih => exact (setup_perform around s step).trans (ih (s.perform around step))

end Session

/-! ### What is written -/

/-- The least level of what is written: the one that is set, or at level zero that of the loggers above. -/
def leastWritten (level : Nat) : Nat :=
  if level = 0 then Severity.warning.number else level

/-- **A log that is set to a level and a format.** -/
structure Journal.IsSetTo (j : Journal) (level : Nat) (format : LogFormat) : Prop where
  /-- There is one handler, and nothing is passed on. -/
  setup_eq : j.setup = some ⟨level, [format], false⟩
  /-- Nothing is passed to it of calls of the package's loggers that are less severe. -/
  lower : ∀ around c, isPackageLogger c.logger = true → c.method.severity.number < leastWritten level →
    (j.call around c).2 = j
  /-- Of each of the others that is not refused its record is passed to it, once. -/
  once : ∀ around c, isPackageLogger c.logger = true → leastWritten level ≤ c.method.severity.number →
    (j.call around c).1 = .ok () →
      (j.call around c).2
        = { j with entries := j.entries ++ [⟨c.record around, j.operations.head?, [format], c.fits⟩] }
  /-- If the record can be written in this format, then the handler writes it, once. -/
  written : ∀ around c now text, isPackageLogger c.logger = true → leastWritten level ≤ c.method.severity.number →
    (j.call around c).1 = .ok () → c.fits format = true →
      format.render now j.operations.head? (c.record around) = .ok text →
        (j.call around c).2.printouts now = j.printouts now ++ [.line text]
  /-- If it cannot, then the handler leaves one report in its stead. -/
  reported : ∀ around c now, isPackageLogger c.logger = true → leastWritten level ≤ c.method.severity.number →
    (j.call around c).1 = .ok () →
      (c.fits format = true → ∃ fault, format.render now j.operations.head? (c.record around) = .error fault) →
        (j.call around c).2.printouts now = j.printouts now ++ [.report (c.record around).report]
  /-- A call that is refused writes nothing. -/
  refused : ∀ around c failure, (j.call around c).1 = .error failure → (j.call around c).2 = j

namespace Journal

variable {j : Journal} {level : Nat} {format : LogFormat} {c : LogCall}

/-- **Before any set-up all loggers are alike**: those of the package, too, write the bare messages of warnings and
worse. -/
theorem isEnabled_and_formats_of_initial (hsetup : j.setup = some .initial) (logger : String) (number : Nat) :
    j.isEnabled logger number = decide (Severity.warning.number ≤ number) ∧ j.formats logger = [.bare] := by
  unfold isEnabled formats
  rw [hsetup]
  -- the level of the log is zero, so that of the loggers above decides in both cases
  cases isPackageLogger logger <;> exact ⟨rfl, rfl⟩

theorem isEnabled_of_setup (hsetup : j.setup = some ⟨level, [format], false⟩)
    (hlogger : isPackageLogger c.logger = true) (number : Nat) :
    j.isEnabled c.logger number = decide (leastWritten level ≤ number) := by
  unfold isEnabled
  rw [if_pos hlogger, hsetup]
  rfl

/-- A log that is set up with one handler behaves as one that is set to its level and its format. -/
theorem isSetTo_of_setup (hsetup : j.setup = some ⟨level, [format], false⟩) : j.IsSetTo level format := by
  -- a call of a package logger at the level adds one entry, in the one format
  have honce : ∀ around c, isPackageLogger c.logger = true → leastWritten level ≤ c.method.severity.number →
      (j.call around c).1 = .ok () → (j.call around c).2
        = { j with entries := j.entries ++ [⟨c.record around, j.operations.head?, [format], c.fits⟩] } := by
    intro around c hlogger hlevel hok
    have hformats : j.formats (c.record around).logger = [format] := by
      rw [formats, LogCall.record, if_pos hlogger, hsetup]
      rfl
    obtain ⟨_, hcall⟩ | ⟨hdisabled, _⟩ | ⟨_, hcall⟩ := j.call_cases around c
    · rw [hcall] at hok
      cases hok
    · rw [isEnabled_of_setup hsetup hlogger, decide_eq_false_iff_not] at hdisabled
      exact absurd hlevel hdisabled
    · rw [hcall, write, hformats]
  -- so the new printout is that of the new entry in the one format
  have hprintouts : ∀ around c now, isPackageLogger c.logger = true → leastWritten level ≤ c.method.severity.number →
      (j.call around c).1 = .ok () → (j.call around c).2.printouts now = j.printouts now
        ++ [Entry.printoutIn ⟨c.record around, j.operations.head?, [format], c.fits⟩ now format] := by
    intro around c now hlogger hlevel hok
    rw [honce around c hlogger hlevel hok, printouts, List.flatMap_append, List.flatMap_singleton, printouts,
      Entry.printouts, List.map_singleton]
  refine ⟨hsetup, ?_, honce, ?_, ?_, ?_⟩
  · intro around c hlogger hlower
    obtain ⟨_, hcall⟩ | ⟨_, hcall⟩ | ⟨henabled, _⟩ := j.call_cases around c
    · rw [hcall]
    · rw [hcall]
    · rw [isEnabled_of_setup hsetup hlogger, decide_eq_true_iff] at henabled
      -- what lies below the level is refused or dropped
      exact absurd henabled (Nat.not_le_of_lt hlower)
  · intro around c now text hlogger hlevel hok hfits htext
    rw [hprintouts around c now hlogger hlevel hok, Entry.printoutIn_eq_line_iff.mpr ⟨hfits, htext⟩]
  · intro around c now hlogger hlevel hok hunwritable
    rw [hprintouts around c now hlogger hlevel hok, Entry.printoutIn_of_unwritable hunwritable]
  · intro around c failure hrefused
    obtain ⟨_, hcall⟩ | ⟨_, hcall⟩ | ⟨_, hcall⟩ := j.call_cases around c
    · rw [hcall]
    · rw [hcall] at hrefused
      cases hrefused
    · rw [hcall] at hrefused
      cases hrefused

end Journal

/-- **The last set-up that succeeded decides**, after every row of steps. A further set-up succeeds exactly if the
settings can be read and it asks for a level, and it changes nothing of the log if it fails. If no set-up succeeded
then the log is set up as at the start; otherwise it is set to what the last one that did asks for. -/
theorem Session.last_setUp_decides (around : Surroundings) (s : Session) (steps : List LogStep) :
    (∀ json level, ((s.after around steps).setUpLog json level).1 = .ok ()
        ↔ ∃ number format, SetUp.Asks ⟨s.after around steps, json, level⟩ number format)
      ∧ (∀ json level failure, ((s.after around steps).setUpLog json level).1 = .error failure →
        ((s.after around steps).setUpLog json level).2.journal = (s.after around steps).journal)
      ∧ match lastSetUp? around s steps with
        | none => (s.after around steps).journal.setup = s.journal.setup
        | some u => ∃ level format, u.Asks level format ∧ (s.after around steps).journal.IsSetTo level format := by
  refine ⟨fun _ _ => setUpLog_eq_ok_iff, fun _ _ _ => journal_of_setUpLog_error, ?_⟩
  have hset := setup_after around s steps
  generalize hsetup : (s.after around steps).journal.setup = setup at hset
  -- either no set-up came into force, or the last one did
  cases hlast : lastSetUp? around s steps with
  | none =>
    rw [hlast] at hset
    cases hset
    rfl
  | some u =>
    rw [hlast] at hset
    cases hset with
    | asked hasks => exact ⟨_, _, hasks, Journal.isSetTo_of_setup hsetup⟩

/-- A line whose template has no place for its argument. -/
def misfit : LogCall where
  logger := "pkcs12_pbe.sample"
  method := .info
  template := "%d"
  arguments := [.text "x"]

/-- A record at the level of a log that was set up with success is not written in its format. Its handler leaves a
report in its stead. -/
theorem line_missing :
    (Session.setUpLog {} (.bool true) (.text "info")).1 = .ok ()
      ∧ isPackageLogger misfit.logger = true ∧ Level.ofName "info" = .ok misfit.method.severity.number
      ∧ ((Session.setUpLog {} (.bool true) (.text "info")).2.journal.call .numbered misfit).1 = .ok ()
      ∧ ((Session.setUpLog {} (.bool true) (.text "info")).2.journal.call .numbered misfit).2.printouts
        Surroundings.numbered.now = [.report (misfit.record .numbered).report] :=
  ⟨rfl, rfl, rfl, rfl, rfl⟩

end Shroud
