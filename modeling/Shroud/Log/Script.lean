import Shroud.Log.Logger

/-!
# Scripts

A `Script` is what a client does that has to do with the log, as data: calls of loggers, blocks that are operations of
their own, functions that are logged, one thing after another, exceptions that are raised and caught. Blocks and
functions may be nested to any depth and be left by an exception at any point, and a script can look at what operation
is open (`Script.current`).

`Script.run` runs a script on a journal. A block opens an operation and closes it however its body ends
(`Journal.within`); a logged function is `Journal.timed`.
-/

namespace Shroud

/-- **Work in a block**, which is an operation of its own. The work is given the identifier, and the operation is closed
however the work ends. -/
def Journal.within {α : Type} (s : Surroundings) (name : String)
    (work : String → Journal → Except Failure α × Journal) (j : Journal) : Except Failure α × Journal :=
  let (result, after) := work (s.operationId j.opened) (j.enter s name)
  (result, after.leave)

/-- What is seen of the operation that is open: its identifier and its name, or nothing for both. -/
def Operation.seen : Option Operation → Value
  | some o => .tuple [.text o.id, .text o.name]
  | none => .tuple [.null, .null]

/-- **What a client does.** A script ends with a value or with a failure. -/
inductive Script where
  /-- Nothing more is done, and this is the value. -/
  | done (v : Value)
  /-- An exception is raised. -/
  | raise (failure : Failure)
  /-- The value is what is seen of the operation that is open. -/
  | current
  /-- A logger is called. -/
  | log (c : LogCall)
  /-- A block under a name, whose body is given the identifier. -/
  | block (name : String) (body : String → Script)
  /-- A function that is logged under a name, by the logger of its module. -/
  | logged (logger name : String) (body : Script)
  /-- One script, and then another that is given its value. -/
  | andThen (first : Script) (next : Value → Script)
  /-- A script, and if it fails another that is given the failure. -/
  | rescue (body : Script) (handler : Failure → Script)

namespace Script

/-- **The run of a script** on a journal: its value or failure, and the journal afterwards. -/
def run (s : Surroundings) : Script → Journal → Except Failure Value × Journal
  | done v, j => (.ok v, j)
  | raise failure, j => (.error failure, j)
  | current, j => (.ok (Operation.seen j.operations.head?), j)
  | log c, j =>
    let (result, j) := j.call s c
    (result.map fun _ => .null, j)
  | block name body, j => j.within s name fun id => (body id).run s
  | logged logger name body, j => Journal.timed id (fun j _ => j) s logger name (body.run s) j
  | andThen first next, j =>
    match first.run s j with
    | (.ok v, j) => (next v).run s j
    | (.error failure, j) => (.error failure, j)
  | rescue body handler, j =>
    match body.run s j with
    | (.ok v, j) => (.ok v, j)
    | (.error failure, j) => (handler failure).run s j

end Script

end Shroud
