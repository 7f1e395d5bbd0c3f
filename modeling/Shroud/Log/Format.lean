import Shroud.Log.Mask
import Shroud.Log.Record
import Shroud.Log.Template
import Shroud.Text.Search

/-!
# Formats of log lines

A record is written as JSON or for people. Both mask the fields (`Mask.fields`).

* `LogFormat.json` is the JSON object: the moment, the level, the logger and the message, the
  operation, then the fields. A field with the name of an earlier entry takes its place. The fault comes
  last, and for warnings and worse the place in the program.
* `LogFormat.human` is one line with colours, the fields after a bar, and the fault below it.
* `LogFormat.bare` is the message alone, with the fault below it; a message that ends its line needs no
  further line end before the fault.

A record need not have a text in a format. Its handler then leaves a report on the same stream, which shows
the template and the arguments as they were given (`LogFormat.printout`).
-/

namespace Shroud

/-- How log lines are written. -/
inductive LogFormat where
  | json
  | human
  | bare
  deriving DecidableEq, Repr

namespace LogFormat

/-- The level from which on the place in the program is written. -/
def sourceLevel : Int := 30

/-- An entry of the JSON object; an empty text makes none. -/
def entryOfText (name text : String) : Fields :=
  if text.isEmpty then [] else [(name, .text text)]

/-- Fields with further entries set. -/
def withEntries (start entries : Fields) : Fields :=
  entries.foldl (fun acc (name, v) => Assoc.set (· == ·) name v acc) start

/-- The entries that every line has. -/
def headEntries (now : Moment) (operation : Option Operation) (r : Record) (message : String) :
    Fields :=
  [("timestamp", .text now.stamp), ("level", .text (Level.name r.level)),
      ("logger", .text r.logger), ("message", .text message)]
    ++ (match operation with
      | some o => entryOfText "operation_id" o.id ++ entryOfText "operation" o.name
      | none => [])

/-- The entries that no field can set. -/
def tailEntries (r : Record) : Fields :=
  (match r.incident with
    | some incident => [("exception", Value.text incident.text)]
    | none => [])
    ++ (if sourceLevel ≤ r.level then [("source", r.source)] else [])

/-- **The entries of the JSON object.** -/
def jsonEntries (now : Moment) (operation : Option Operation) (r : Record) :
    Except RenderFault Fields := do
  let message ← Template.render r.template r.arguments
  let fields ← Mask.fields r.fields
  return withEntries (withEntries (headEntries now operation r message) fields) (tailEntries r)

/-- The record as a JSON object. -/
def asJson (now : Moment) (operation : Option Operation) (r : Record) :
    Except RenderFault String := do
  let entries ← jsonEntries now operation r
  Value.json (.dict (entries.map fun (name, v) => (.text name, v)))

/-- The colour of a severity, by the name of the level. -/
def colours : List (String × String) :=
  [("DEBUG", "\x1b[36m"), ("INFO", "\x1b[32m"), ("WARNING", "\x1b[33m"), ("ERROR", "\x1b[31m"),
    ("CRITICAL", "\x1b[35m")]

/-- The end of a colour. -/
def plainColour : String := "\x1b[0m"

/-- The start of an operation's identifier in brackets. -/
def operationMark : Option Operation → String
  | some o =>
    if o.id.isEmpty then "" else "[op=" ++ String.ofList (o.id.toList.take 8) ++ "] "
  | none => ""

/-- Fields as `name=value`. -/
def assignments : Fields → Except RenderFault (List String)
  | [] => .ok []
  | (name, v) :: rest => do
    let shown ← v.display
    let others ← assignments rest
    return (name ++ "=" ++ shown) :: others

/-- The fields after a bar. -/
def fieldText (fields : Fields) : Except RenderFault String := do
  if fields.isEmpty then return ""
  else
    let shown ← assignments (← Mask.fields fields)
    return " | " ++ " ".intercalate shown

/-- The fault of a record below its line. -/
def incidentText (r : Record) : String :=
  match r.incident with
  | some incident => "\n" ++ incident.text
  | none => ""

/-- The record for people. -/
def asHuman (now : Moment) (operation : Option Operation) (r : Record) :
    Except RenderFault String := do
  let level := Level.name r.level
  let fields ← fieldText r.fields
  let message ← Template.render r.template r.arguments
  return (colours.lookup level).getD "" ++ now.timeOfDay ++ " " ++ String.ofList (level.toList.take 4)
    ++ plainColour ++ " [" ++ r.logger ++ "] " ++ operationMark operation ++ message ++ fields
    ++ incidentText r

/-- A message followed by the fault of a record on a line of its own. -/
def aboveIncident (message : String) (r : Record) : String :=
  match r.incident with
  | some incident =>
    message ++ (if message.toList.getLast? = some '\n' then "" else "\n") ++ incident.text
  | none => message

/-- The message of a record. -/
def asBare (r : Record) : Except RenderFault String := do
  return aboveIncident (← Template.render r.template r.arguments) r

/-- **The text of a record**, written at a moment inside an operation or outside of any. -/
def render (format : LogFormat) (now : Moment) (operation : Option Operation) (r : Record) :
    Except RenderFault String :=
  match format with
  | json => asJson now operation r
  | human => asHuman now operation r
  | bare => asBare r

end LogFormat

/-- What a handler leaves of a record on its stream. -/
inductive Printout where
  /-- The record, in the format of the handler. -/
  | line (text : String)
  /-- A report that the record could not be written. -/
  | report (text : String)
  deriving DecidableEq, Repr

/-- The lines of what a handler leaves. -/
def Printout.lines : Printout → List String
  | line text | report text => Text.lines text

namespace Record

/-- The arguments as a report shows them: a row, or the dictionary that they are. -/
def shownArguments (r : Record) : Except RenderFault String :=
  match r.arguments with
  | [.dict (entry :: entries)] => (Value.dict (entry :: entries)).inspect
  | arguments => (Value.tuple arguments).inspect

/-- What a report shows of a record. Nothing of it is masked. -/
def shown (r : Record) : List String :=
  match r.shownArguments with
  | .ok arguments => ["Message: " ++ Text.quoted r.template, "Arguments: " ++ arguments]
  | .error _ =>
    ["Unable to print the message and arguments - possible formatting error.",
      "Use the traceback above to help find the error."]

/-- **The report of a record that cannot be written.** The calls in progress are left out of it, and so is
the wording of the fault above them. -/
def report (r : Record) : String :=
  "\n".intercalate
    (["--- Logging error ---", "Traceback (most recent call last):", "Call stack:"] ++ r.shown)

end Record

/-- **What a handler leaves of a record**: its text in the format of the handler, or the report that it has
none. -/
def LogFormat.printout (format : LogFormat) (now : Moment) (operation : Option Operation) (r : Record) :
    Printout :=
  match format.render now operation r with
  | .ok text => .line text
  | .error _ => .report r.report

end Shroud
