import Shroud.Log.Journal

/-!
# Loggers

A client logs by calling a method of a logger with a template, arguments and named fields
(`Journal.call`). Some names cannot be fields, because they are those of the method's own parameters. Such
calls fail, most of them only where the level is enabled.

Plain calls take no fields: those of the logger of the whole package and of the root logger, and all
critical lines. What they are given by name are parameters, and one of these, `extra`, is a dictionary of
further attributes of the record. An attribute must not take the name of one that every record has, and
the attribute `extra_fields` is the dictionary of the line's fields. If it is no such dictionary, or the
fault of the line is none, the formats that need it cannot have the line (`LogCall.fits`).

`Journal.timed` runs work inside an operation and closes with one line: that it completed, with its
duration, or that it failed, with the kind of its failure.
-/

namespace Shroud

/-- The methods of a logger. -/
inductive LogMethod where
  | debug
  | info
  | warning
  | error
  | critical
  /-- A line about an error, with the fault that is being handled. -/
  | exception
  deriving DecidableEq, Repr

/-- The severity of a method's lines. -/
def LogMethod.severity : LogMethod → Severity
  | debug => .debug
  | info => .info
  | warning => .warning
  | error | exception => .error
  | critical => .critical

/-- A call of a logger's method. -/
structure LogCall where
  logger : String
  method : LogMethod
  template : String
  arguments : List Value := []
  fields : Fields := []
  incident : Option Incident := none

namespace LogCall

/-- The name of the parameter for the fault of a line. -/
def incidentName : String := "exc_info"

/-- The name of the parameter for further attributes of the record. -/
def attributesName : String := "extra"

/-- The name of the parameter for how far up the place of the call is. -/
def depthName : String := "stacklevel"

/-- The names of the parameters of a plain call. -/
def plainParameters : List String := [incidentName, attributesName, "stack_info", depthName]

/-- The names of the logger above all others. -/
def rootNames : List String := ["root", ""]

/-- Whether what is given by name are parameters, not fields.

A logger is made when it is first asked for, and takes fields if a client asks for it as one of the package. The
logger of the whole package is assumed to be there before any client asks for it, as it is once the log was set up or
held back; a client that asks for it first gets one that takes fields. -/
def isPlain (c : LogCall) : Bool :=
  c.logger == packageLogger || rootNames.contains c.logger || c.method = .critical

/-- Whether a field has one of these names. -/
def hasField (c : LogCall) (names : List String) : Bool :=
  c.fields.any fun (name, _) => names.contains name

/-! ### The fault of a line -/

/-- The fault that a value stands for. A row of three is a kind, a fault, and its place. -/
def incidentOf : Value → Option Incident
  | .fault kind arguments | .tuple (_ :: .fault kind arguments :: _) => some (.fault kind arguments)
  | v => if v.isTrue then some .absent else none

/-- Whether a value in the place of a fault keeps the line from being written: a row that is no kind,
fault, and place that is left out. -/
def isBroken : Value → Bool
  | .tuple [] | .tuple (_ :: .fault .. :: .null :: _) | .tuple (_ :: .null :: .null :: _) => false
  | .tuple _ => true
  | _ => false

/-- The fault that the line reports. -/
def lineIncident (c : LogCall) : Option Incident :=
  match c.incident, c.fields.lookup incidentName with
  | some incident, _ => some incident
  | none, some v => incidentOf v
  | none, none => if c.method = .exception then some .absent else none

/-- Whether the fault of the line is none. -/
def hasBrokenIncident (c : LogCall) : Bool :=
  c.incident.isNone && (c.fields.lookup incidentName).any isBroken

/-! ### The attributes of a plain call -/

/-- The attributes that every record has, and those that formats add. -/
def reservedAttributes : List String :=
  ["args", "asctime", "created", "exc_info", "exc_text", "filename", "funcName", "levelname", "levelno",
    "lineno", "message", "module", "msecs", "msg", "name", "pathname", "process", "processName",
    "relativeCreated", "stack_info", "thread", "threadName"]

/-- Whether an attribute has the name of one that every record has. -/
def isReserved (name : Value) : Bool :=
  name.text?.any reservedAttributes.contains

/-- Whether a value is a number. -/
def isNumber : Value → Bool
  | .bool _ | .int _ | .float _ | .purpose _ => true
  | _ => false

/-- The items of a row. -/
def rowOf? : Value → Option (List Value)
  | .list vs | .tuple vs => some vs
  | .bytes bs | .buffer bs => some (bs.map fun b => .int b.toNat)
  | _ => none

/-- The position that an item of a row names. -/
def position? : Value → Option Int
  | .float _ => none
  | v => v.integer?

/-- What is wrong with a row of so many items, given as attributes, after the items `seen`: every item is
the name of an attribute and the position of its value, so that it has to be an integer that occurs only
once. -/
def rowMisuse? (count : Nat) (seen : List Value) : List Value → Option Misuse
  | [] => none
  | v :: vs =>
    if !v.isKey then some .fieldClash
    else if isReserved v || seen.any (Value.sameKey v) then some .reservedAttribute
    else
      match position? v with
      | none => some .fieldClash
      | some n =>
        if -(count : Int) ≤ n && n < count then rowMisuse? count (v :: seen) vs
        else some .attributePosition

/-- The attributes that a value holds: the entries of a dictionary. Null holds none, and neither does
whatever else is empty, nor a row of positions, whose attributes no line shows. -/
def attributesOf : Value → Except Misuse (List (Value × Value))
  | .dict entries =>
    if entries.any fun (name, _) => isReserved name then .error .reservedAttribute else .ok entries
  | .null => .ok []
  | v =>
    match rowOf? v with
    | some vs =>
      match rowMisuse? vs.length [] vs with
      | some misuse => .error misuse
      | none => .ok []
    | none => if isNumber v || v.isTrue then .error .fieldClash else .ok []

/-- The attributes of a plain call. -/
def attributes (c : LogCall) : Except Misuse (List (Value × Value)) :=
  ((c.fields.lookup attributesName).map attributesOf).getD (.ok [])

/-- What a plain call gives as the fields of its line. -/
def attached? (c : LogCall) : Option Value :=
  match c.attributes with
  | .ok entries => (entries.find? fun (name, _) => name.text? == some "extra_fields").map Prod.snd
  | .error _ => none

/-- The fields that a value holds. -/
def fieldsOf? : Value → Option Fields
  | .dict entries => entries.mapM fun (name, v) => name.text?.map (·, v)
  | _ => none

/-! ### What becomes of a call -/

/-- The fields that are fields of the line. -/
def lineFields (c : LogCall) : Fields :=
  if c.isPlain then (c.attached?.bind fieldsOf?).getD []
  else c.fields.filter fun (name, _) => name != incidentName

/-- What is wrong with a plain call. -/
def plainMisuse? (c : LogCall) : Option Misuse :=
  if c.fields.any fun (name, _) => !plainParameters.contains name then some .fieldClash
  else if (c.fields.lookup depthName).any fun v => !isNumber v then some .fieldClash
  else
    match c.attributes with
    | .ok _ => none
    | .error misuse => some misuse

/-- What is wrong with a call whose level is enabled. -/
def misuse? (c : LogCall) : Option Misuse :=
  if c.isPlain then c.plainMisuse?
  else if c.hasField ["level", "args"] then some .fieldClash
  else none

/-- Whether a format can write what a plain call gives as fields. -/
def fitsAttached (c : LogCall) (format : LogFormat) : Bool :=
  !c.isPlain || c.attached?.all fun v =>
    match format with
    | .json => (fieldsOf? v).isSome
    | .human => (fieldsOf? v).isSome || !v.isTrue
    | .bare => true

/-- Whether the line can be written in a format. -/
def fits (c : LogCall) (format : LogFormat) : Bool :=
  !c.hasBrokenIncident && c.fitsAttached format

/-- The record of a call. -/
def record (c : LogCall) (s : Surroundings) : Record where
  logger := c.logger
  level := c.method.severity.number
  template := c.template
  arguments := c.arguments
  fields := c.lineFields
  incident := c.lineIncident
  source := s.source

end LogCall

namespace Journal

/-- **A call of a logger.** -/
def call (j : Journal) (s : Surroundings) (c : LogCall) : Except Failure Unit × Journal :=
  if c.hasField ["msg", "self"] then (.error (.misuse .fieldClash), j)
  else if !j.isEnabled c.logger c.method.severity.number then (.ok (), j)
  else
    match c.misuse? with
    | some misuse => (.error (.misuse misuse), j)
    | none => (.ok (), j.write (c.record s) c.fits)

/-- The call that closes an operation. -/
def closing {α : Type} (logger name : String) (spent : Value) : Except Failure α → LogCall
  | .ok _ =>
    { logger, method := .debug, template := name ++ " completed", fields := [("duration_ms", spent)] }
  | .error failure =>
    { logger, method := .info, template := name ++ " failed",
      fields := [("error_type", .text failure.kind.name), ("duration_ms", spent)] }

/-- The journal after the closing line of an operation, and the result that leaves it: the work's own,
unless the line could not be logged. -/
def close {α : Type} (j : Journal) (s : Surroundings) (logger name : String) (start : Float)
    (result : Except Failure α) : Except Failure α × Journal :=
  let (stop, j) := j.tick s
  let (logged, j) := j.call s (closing logger name (duration start stop) result)
  (match logged with
    | .ok () => result
    | .error failure => .error failure, j.leave)

/-- **Work inside an operation**, in a state that holds the journal. -/
def timed {σ α : Type} (get : σ → Journal) (set : Journal → σ → σ) (s : Surroundings)
    (logger name : String) (work : σ → Except Failure α × σ) (state : σ) : Except Failure α × σ :=
  let (start, j) := (get state).tick s
  let (result, after) := work (set (j.enter s name) state)
  let (result, j) := (get after).close s logger name start result
  (result, set j after)

end Journal

end Shroud
