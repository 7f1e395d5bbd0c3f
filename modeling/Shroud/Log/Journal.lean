import Shroud.Decimal.Rounded
import Shroud.Log.Format
import Shroud.Surroundings

/-!
# The journal

The journal is the state of the log: how it is set up, which operations are open, and what was written so
far. The loggers of the package are those whose names start with its name. Once the log is set up they pass
every record at or above the level to each handler. Before that (`LogSetup.initial`) they are like all other
loggers, which write the bare messages of warnings and worse. A program may also hold the log of the package
back until it is set up, and then nothing is written of it.

* `Journal.write` writes a record, `Journal.note` a message with fields if the level is enabled;
* `Journal.enter` and `Journal.leave` open and close an operation, under a fresh identifier;
* `Journal.tick` reads the clock;
* `Journal.printouts` are what the handlers left, one for each record and handler: the record in the format
  of the handler or, if it cannot be written in this format, a report that says so. Their lines are
  `Journal.lines`.
-/

namespace Shroud

/-- How the log of the package is set up. -/
structure LogSetup where
  level : Nat
  /-- The formats of the handlers to which a record is passed. -/
  handlers : List LogFormat
  /-- Whether records are also passed on to the loggers above the package. -/
  propagates : Bool
  deriving DecidableEq

/-- The log before anybody sets it up: no level, and no handler but the one of last resort, above all loggers. -/
def LogSetup.initial : LogSetup where
  level := 0
  handlers := [.bare]
  propagates := true

/-- The least level of what is written; at level zero that of the loggers above decides. -/
def LogSetup.threshold (s : LogSetup) : Nat :=
  if s.level = 0 then Severity.warning.number else s.level

/-- The logger of the whole package. -/
def packageLogger : String := "pkcs12_pbe"

/-- Whether a logger is one of the package. -/
def isPackageLogger (logger : String) : Bool :=
  logger == packageLogger || (packageLogger ++ ".").toList.isPrefixOf logger.toList

/-- A record that was passed to handlers: inside which operation, and in which formats they write. -/
structure Entry where
  record : Record
  operation : Option Operation
  formats : List LogFormat
  /-- Whether a format can have what the record was given as its fields and its fault. -/
  suits : LogFormat → Bool := fun _ => true

namespace Entry

/-- What the handler of a format leaves of an entry. -/
def printoutIn (e : Entry) (now : Moment) (format : LogFormat) : Printout :=
  if e.suits format then format.printout now e.operation e.record else .report e.record.report

/-- What the handlers leave of an entry. -/
def printouts (e : Entry) (now : Moment) : List Printout :=
  e.formats.map (e.printoutIn now)

end Entry

/-- The state of the log. -/
structure Journal where
  /-- How the log of the package is set up; none as long as it is held back. -/
  setup : Option LogSetup := some .initial
  /-- The open operations, the innermost first. -/
  operations : List Operation := []
  /-- How many operations were opened. -/
  opened : Nat := 0
  /-- How often the clock was read. -/
  ticks : Nat := 0
  /-- What was passed to handlers, the oldest first. -/
  entries : List Entry := []

namespace Journal

/-- Whether a logger passes on records of a level. -/
def isEnabled (j : Journal) (logger : String) (level : Nat) : Bool :=
  if isPackageLogger logger then
    match j.setup with
    | some s => s.threshold ≤ level
    | none => false
  else Severity.warning.number ≤ level

/-- The formats of the handlers to which a logger passes each record. -/
def formats (j : Journal) (logger : String) : List LogFormat :=
  if isPackageLogger logger then (j.setup.map (·.handlers)).getD [] else [.bare]

/-- The journal after a record is passed to the handlers of its logger. The formats may differ in whether they
can have it. -/
def write (j : Journal) (r : Record) (suits : LogFormat → Bool := fun _ => true) : Journal :=
  { j with entries := j.entries ++ [⟨r, j.operations.head?, j.formats r.logger, suits⟩] }

/-- **What the handlers left**, the oldest first. -/
def printouts (j : Journal) (now : Moment) : List Printout :=
  j.entries.flatMap (·.printouts now)

/-- **The lines on the streams of the handlers.** -/
def lines (j : Journal) (now : Moment) : List String :=
  (j.printouts now).flatMap Printout.lines

/-- The journal after a message with fields, if its level is enabled. -/
def note (j : Journal) (s : Surroundings) (logger : String) (severity : Severity) (message : String)
    (fields : Fields) : Journal :=
  if j.isEnabled logger severity.number then
    j.write { logger, level := severity.number, template := message, fields, source := s.source }
  else j

/-- A reading of the clock. -/
def tick (j : Journal) (s : Surroundings) : Float × Journal :=
  (s.clock j.ticks, { j with ticks := j.ticks + 1 })

/-- The journal inside a new operation. -/
def enter (j : Journal) (s : Surroundings) (name : String) : Journal :=
  { j with operations := ⟨s.operationId j.opened, name⟩ :: j.operations, opened := j.opened + 1 }

/-- The journal after the innermost operation. -/
def leave (j : Journal) : Journal :=
  { j with operations := j.operations.tail }

end Journal

/-- The time between two readings of the clock, in milliseconds to two places. -/
def duration (start stop : Float) : Value :=
  .float (Decimal.roundTo 2 ((stop - start) * 1000)).toBits

end Shroud
