import Shroud.Log.Script
import Shroud.Proofs.Log.Notices
import Shroud.Proofs.Log.OwnEntries

/-!
# Operations nest like a stack

A journal keeps a stack of open operations, and blocks and logged functions push on it and pop from it. What this comes
to is said by a second semantics of scripts that has no stack: `Script.course` hands the innermost operation down to
what is inside of a block, and everything behind the block is told the one around it again. A course has the script's
value or failure, the operations that were opened, and the calls of loggers, each with the innermost operation around
it.

`Script.run_eq` says that a run follows its course, for every script, whatever is nested in it and however its parts
end. So the stack is afterwards as it was before, which is to leave a block by giving back what was there when it was
entered. `Script.nests` draws from this what a client can see.
-/

namespace Shroud

/-! ### Calls in an operation -/

/-- The log that is set up in some way, in which nothing was written and just one operation is open or none. -/
def Journal.inOperation (setup : Option LogSetup) (operation : Option Operation) : Journal where
  setup := setup
  operations := operation.toList

/-- A call of a logger, with the innermost operation around it. -/
structure Occurrence where
  operation : Option Operation
  call : LogCall

namespace Occurrence

variable (x : Occurrence) (s : Surroundings) (setup : Option LogSetup)

/-- Whether the call succeeds. -/
def reply : Except Failure Unit :=
  ((Journal.inOperation setup x.operation).call s x.call).1

/-- The entries that the call writes. -/
def entries : List Entry :=
  ((Journal.inOperation setup x.operation).call s x.call).2.entries

end Occurrence

/-- In a log with one operation or none this is the innermost. -/
theorem Journal.head?_inOperation (setup : Option LogSetup) (operation : Option Operation) :
    (inOperation setup operation).operations.head? = operation := by
  cases operation <;> rfl

/-- Entries are written in the innermost operation. -/
theorem Occurrence.operation_of_mem {x : Occurrence} {s : Surroundings} {setup : Option LogSetup} {e : Entry}
    (h : e ∈ x.entries s setup) : e.operation = x.operation := by
  unfold entries at h
  -- a call that is refused or below the level writes nothing
  obtain ⟨_, hcall⟩ | ⟨_, hcall⟩ | ⟨_, hcall⟩ := (Journal.inOperation setup x.operation).call_cases s x.call
  · rw [hcall] at h
    exact nomatch h
  · rw [hcall] at h
    exact nomatch h
  · rw [hcall] at h
    obtain rfl := List.mem_singleton.mp h
    exact Journal.head?_inOperation setup x.operation

/-- **A call depends on how the log is set up and on the innermost operation.** It adds entries and changes nothing
else. -/
theorem Journal.call_eq (j : Journal) (s : Surroundings) (c : LogCall) :
    j.call s c = (Occurrence.reply ⟨j.operations.head?, c⟩ s j.setup,
      { j with entries := j.entries ++ Occurrence.entries ⟨j.operations.head?, c⟩ s j.setup }) := by
  have henabled : ∀ logger level, (inOperation j.setup j.operations.head?).isEnabled logger level
      = j.isEnabled logger level := fun _ _ => rfl
  have hunchanged : { j with entries := j.entries ++ [] } = j := by rw [List.append_nil]
  unfold Occurrence.reply Occurrence.entries call
  simp only [henabled]
  by_cases hclash : c.hasField ["msg", "self"] = true
  · rw [if_pos hclash, if_pos hclash]
    exact Prod.ext rfl hunchanged.symm
  · rw [if_neg hclash, if_neg hclash]
    by_cases hlevel : (!j.isEnabled c.logger c.method.severity.number) = true
    · rw [if_pos hlevel, if_pos hlevel]
      exact Prod.ext rfl hunchanged.symm
    · rw [if_neg hlevel, if_neg hlevel]
      cases c.misuse? with
      | some misuse => exact Prod.ext rfl hunchanged.symm
      | none =>
        -- the entry carries the operation at the head of the stack in both logs
        simp only [write, head?_inOperation]
        rfl

/-- The journal in which a logged function starts. -/
def Journal.started (j : Journal) (s : Surroundings) (name : String) : Journal :=
  (j.tick s).2.enter s name

/-- The closing line of an operation is a call inside of it. -/
theorem Journal.close_eq {α : Type} (j : Journal) (s : Surroundings) (logger name : String) (start : Float)
    (result : Except Failure α) :
    j.close s logger name start result
      = (match Occurrence.reply ⟨j.operations.head?, closing logger name (duration start (s.clock j.ticks)) result⟩ s
            j.setup with
          | .ok () => result
          | .error failure => .error failure,
        { j with
          operations := j.operations.tail
          ticks := j.ticks + 1
          entries := j.entries ++ Occurrence.entries
            ⟨j.operations.head?, closing logger name (duration start (s.clock j.ticks)) result⟩ s j.setup }) := by
  rw [close, tick]
  dsimp only
  rw [call_eq]
  rfl

namespace Script

/-! ### Courses -/

/-- How far the surroundings were used: how many operations were opened, and how often the clock was read. -/
structure Usage where
  opened : Nat
  ticks : Nat

/-- **What becomes of a script.** -/
structure Course where
  outcome : Except Failure Value
  /-- How far the surroundings were used when it ended. -/
  usage : Usage
  /-- The operations that were opened, one for each block and each logged function that was entered. -/
  blocks : List Operation := []
  /-- The calls of loggers. -/
  calls : List Occurrence := []

/-- One course behind another. -/
def Course.followedBy (c d : Course) : Course :=
  { d with blocks := c.blocks ++ d.blocks, calls := c.calls ++ d.calls }

/-- **The course of a script** inside an innermost operation or none. There is no stack in it: what is inside of a block
is told the operation of the block, and what comes behind is told what the block was told. -/
def course (s : Surroundings) (setup : Option LogSetup) : Script → Option Operation → Usage → Course
  | done v, _, u => { outcome := .ok v, usage := u }
  | raise failure, _, u => { outcome := .error failure, usage := u }
  | current, o, u => { outcome := .ok (Operation.seen o), usage := u }
  | log c, o, u =>
    { outcome := (Occurrence.reply ⟨o, c⟩ s setup).map fun _ => .null, usage := u, calls := [⟨o, c⟩] }
  | block name body, _, u =>
    let o : Operation := ⟨s.operationId u.opened, name⟩
    let c := (body o.id).course s setup (some o) { u with opened := u.opened + 1 }
    { c with blocks := o :: c.blocks }
  | logged logger name body, _, u =>
    let o : Operation := ⟨s.operationId u.opened, name⟩
    let c := body.course s setup (some o) ⟨u.opened + 1, u.ticks + 1⟩
    let spent := duration (s.clock u.ticks) (s.clock c.usage.ticks)
    let closing : Occurrence := ⟨some o, Journal.closing logger name spent c.outcome⟩
    { outcome := match closing.reply s setup with
        | .ok () => c.outcome
        | .error failure => .error failure
      usage := { c.usage with ticks := c.usage.ticks + 1 }
      blocks := o :: c.blocks
      calls := c.calls ++ [closing] }
  | andThen first next, o, u =>
    let c := first.course s setup o u
    match c.outcome with
    | .ok v => c.followedBy ((next v).course s setup o c.usage)
    | .error _ => c
  | rescue body handler, o, u =>
    let c := body.course s setup o u
    match c.outcome with
    | .ok _ => c
    | .error failure => c.followedBy ((handler failure).course s setup o c.usage)

/-- The course of a script in a journal. -/
def courseIn (script : Script) (s : Surroundings) (j : Journal) : Course :=
  script.course s j.setup j.operations.head? ⟨j.opened, j.ticks⟩

/-- The journal after a course. The open operations are those that were open before. -/
def Course.after (c : Course) (s : Surroundings) (j : Journal) : Journal :=
  { j with
    opened := c.usage.opened
    ticks := c.usage.ticks
    entries := j.entries ++ c.calls.flatMap fun x => x.entries s j.setup }

/-! ### Runs follow their courses -/

section Runs

variable {s : Surroundings} {j : Journal}

/-- A course without calls and blocks leaves the journal as it is. -/
theorem after_of_quiet {c : Course} (husage : c.usage = ⟨j.opened, j.ticks⟩) (hcalls : c.calls = []) :
    c.after s j = j := by
  rw [Course.after, husage, hcalls, List.flatMap_nil, List.append_nil]

/-- What comes of a course inside of an operation, its closing line and a reading of the clock, is outside of it what
comes of a course with one call more. -/
theorem after_concat {inside : Journal} (hsetup : inside.setup = j.setup) (hentries : inside.entries = j.entries)
    (c : Course) (x : Occurrence) :
    { c.after s inside with
      operations := j.operations
      ticks := c.usage.ticks + 1
      entries := (c.after s inside).entries ++ x.entries s inside.setup }
      = ({ c with usage.ticks := c.usage.ticks + 1, calls := c.calls ++ [x] } : Course).after s j := by
  unfold Course.after
  rw [List.flatMap_append, List.flatMap_singleton, hsetup, hentries, List.append_assoc]

/-- A script that follows another one follows its course in the journal afterwards. -/
theorem after_followedBy (c : Course) (script : Script) :
    (c.followedBy (script.course s j.setup j.operations.head? c.usage)).after s j
      = (script.courseIn s (c.after s j)).after s (c.after s j) := by
  unfold Course.after Course.followedBy courseIn
  simp only [List.flatMap_append, List.append_assoc]

/-! What a script becomes of which only one part runs, and of which the second goes on where the first ended. -/

/-- What comes next goes on where the first part stopped. -/
theorem courseIn_andThen_of_ok {first : Script} {next : Value → Script} {v : Value}
    (h : (first.courseIn s j).outcome = .ok v) :
    (andThen first next).courseIn s j = (first.courseIn s j).followedBy
      ((next v).course s j.setup j.operations.head? (first.courseIn s j).usage) := by
  unfold courseIn at h ⊢
  simp only [course, h]

theorem courseIn_andThen_of_error {first : Script} {next : Value → Script} {failure : Failure}
    (h : (first.courseIn s j).outcome = .error failure) : (andThen first next).courseIn s j = first.courseIn s j := by
  unfold courseIn at h ⊢
  simp only [course, h]

theorem courseIn_rescue_of_ok {body : Script} {handler : Failure → Script} {v : Value}
    (h : (body.courseIn s j).outcome = .ok v) : (rescue body handler).courseIn s j = body.courseIn s j := by
  unfold courseIn at h ⊢
  simp only [course, h]

/-- A handler goes on where the failure happened. -/
theorem courseIn_rescue_of_error {body : Script} {handler : Failure → Script} {failure : Failure}
    (h : (body.courseIn s j).outcome = .error failure) :
    (rescue body handler).courseIn s j = (body.courseIn s j).followedBy
      ((handler failure).course s j.setup j.operations.head? (body.courseIn s j).usage) := by
  unfold courseIn at h ⊢
  simp only [course, h]

/-- **A run follows its course.** -/
theorem run_eq (script : Script) (s : Surroundings) (j : Journal) :
    script.run s j = ((script.courseIn s j).outcome, (script.courseIn s j).after s j) := by
  -- every part of a script runs in a journal of its own
  induction script generalizing j with
  | done v => exact Prod.ext rfl (after_of_quiet rfl rfl).symm
  | raise failure => exact Prod.ext rfl (after_of_quiet rfl rfl).symm
  | current => exact Prod.ext rfl (after_of_quiet rfl rfl).symm
  | log c =>
    rw [run, Journal.call_eq]
    refine Prod.ext rfl ?_
    rw [Course.after, courseIn, course, List.flatMap_singleton]
  | block name body ih =>
    -- the operation of the block is at the head of the stack inside, and leaving the block takes it off again
    have hinside := ih (s.operationId j.opened) (j.enter s name)
    rw [run, Journal.within, hinside]
    rfl
  | logged logger name body ih =>
    -- the body runs inside, between two readings of the clock, and the closing line is written before leaving
    let c := body.courseIn s (j.started s name)
    let closing : Occurrence := ⟨some ⟨s.operationId j.opened, name⟩,
      Journal.closing logger name (duration (s.clock j.ticks) (s.clock c.usage.ticks)) c.outcome⟩
    have hinside : body.run s ((j.tick s).2.enter s name) = (c.outcome, c.after s (j.started s name)) :=
      ih (j.started s name)
    have hsetup : (j.started s name).setup = j.setup := rfl
    rw [run, Journal.timed]
    dsimp only [id]
    rw [hinside, Journal.close_eq]
    exact Prod.ext rfl (after_concat hsetup rfl c closing)
  | andThen first next ihFirst ihNext =>
    rw [run, ihFirst]
    cases houtcome : (first.courseIn s j).outcome with
    | ok v =>
      rw [courseIn_andThen_of_ok houtcome, after_followedBy]
      exact ihNext v _
    | error failure => rw [courseIn_andThen_of_error houtcome, houtcome]
  | rescue body handler ihBody ihHandler =>
    rw [run, ihBody]
    cases houtcome : (body.courseIn s j).outcome with
    | ok v => rw [courseIn_rescue_of_ok houtcome, houtcome]
    | error failure =>
      rw [courseIn_rescue_of_error houtcome, after_followedBy]
      exact ihHandler failure _

end Runs

/-! ### Identifiers -/

/-- The operations of a course have the identifiers that were there to be drawn, in a row, each of them once. -/
structure Course.IsFresh (c : Course) (s : Surroundings) (opened : Nat) : Prop where
  ids : c.blocks.map (·.id) = (List.range' opened c.blocks.length).map s.operationId
  opened_eq : c.usage.opened = opened + c.blocks.length

namespace Course.IsFresh

variable {c d : Course} {s : Surroundings} {opened : Nat}

/-- A course without blocks is fresh. -/
theorem of_none (hblocks : c.blocks = []) (husage : c.usage.opened = opened) : c.IsFresh s opened where
  ids := by rw [hblocks]; rfl
  opened_eq := by rw [hblocks, husage]; rfl

/-- An operation before those of a course. -/
theorem cons (h : c.IsFresh s (opened + 1)) (name : String)
    (hblocks : d.blocks = ⟨s.operationId opened, name⟩ :: c.blocks) (husage : d.usage.opened = c.usage.opened) :
    d.IsFresh s opened where
  ids := by
    rw [hblocks, List.map_cons, List.length_cons, List.range'_succ, List.map_cons, h.ids]
  opened_eq := by
    rw [husage, h.opened_eq, hblocks, List.length_cons]
    omega

/-- The operations of one course and of another behind it. -/
theorem followedBy (hc : c.IsFresh s opened) (hd : d.IsFresh s c.usage.opened) : (c.followedBy d).IsFresh s opened where
  -- the identifiers of the second course follow those of the first
  ids := calc (c.blocks ++ d.blocks).map (·.id)
    _ = (List.range' opened c.blocks.length).map s.operationId
        ++ (List.range' (opened + c.blocks.length) d.blocks.length).map s.operationId := by
      rw [List.map_append, hc.ids, hd.ids, hc.opened_eq]
    _ = (List.range' opened (c.blocks ++ d.blocks).length).map s.operationId := by
      rw [← List.map_append, List.range'_append_1, List.length_append]
  opened_eq := calc d.usage.opened
    _ = opened + c.blocks.length + d.blocks.length := by rw [hd.opened_eq, hc.opened_eq]
    _ = opened + (c.blocks ++ d.blocks).length := by rw [List.length_append, Nat.add_assoc]

end Course.IsFresh

/-- **No identifier is used twice** in a course. -/
theorem isFresh_course (script : Script) (s : Surroundings) (setup : Option LogSetup) (o : Option Operation)
    (u : Usage) : (script.course s setup o u).IsFresh s u.opened := by
  -- a part that comes behind another draws from where this one ended
  induction script generalizing o u with
  | done v => exact .of_none rfl rfl
  | raise failure => exact .of_none rfl rfl
  | current => exact .of_none rfl rfl
  | log c => exact .of_none rfl rfl
  | block name body ih => exact (ih _ _ _).cons name rfl rfl
  | logged logger name body ih =>
    have hinside := ih (some ⟨s.operationId u.opened, name⟩) ⟨u.opened + 1, u.ticks + 1⟩
    exact hinside.cons name rfl rfl
  | andThen first next ihFirst ihNext =>
    rw [course]
    split
    · exact (ihFirst o u).followedBy (ihNext _ o _)
    · exact ihFirst o u
  | rescue body handler ihBody ihHandler =>
    rw [course]
    split
    · exact ihBody o u
    · exact (ihBody o u).followedBy (ihHandler _ o _)

/-! ### Logged functions -/

/-- How severe the closing line of a logged function is. -/
def closingSeverity : Except Failure Value → Severity
  | .ok _ => .debug
  | .error _ => .info

/-- Whether the closing line of a logged function cannot be logged: it would be written, and the logger of the
function's module is one that takes no fields, which are that of the whole package and the root logger. -/
def closingClashes (j : Journal) (logger : String) (result : Except Failure Value) : Bool :=
  (logger == packageLogger || LogCall.rootNames.contains logger)
    && j.isEnabled logger (closingSeverity result).number

/-- Plain loggers cannot take the last notice of a block, because of its fields. -/
theorem misuse?_closing (logger name : String) (spent : Value) (result : Except Failure Value) :
    (Journal.closing logger name spent result).misuse?
      = if logger == packageLogger || LogCall.rootNames.contains logger then some .fieldClash else none := by
  have hplain : (Journal.closing logger name spent result).isPlain
      = (logger == packageLogger || LogCall.rootNames.contains logger) := by
    cases result <;> exact Bool.or_false _
  have hmisuse : (Journal.closing logger name spent result).plainMisuse? = some .fieldClash := by
    cases result <;> rfl
  have hfree : (Journal.closing logger name spent result).hasField ["level", "args"] = false := by
    cases result <;> rfl
  rw [LogCall.misuse?, hplain, hmisuse, hfree]
  rfl

/-- A block ends with a clash of its own if its last notice gets as far as a plain logger. -/
theorem reply_closing (j : Journal) (s : Surroundings) (o : Option Operation) (logger name : String) (spent : Value)
    (result : Except Failure Value) :
    Occurrence.reply ⟨o, Journal.closing logger name spent result⟩ s j.setup
      = if closingClashes j logger result then .error (.misuse .fieldClash) else .ok () := by
  have hfree : (Journal.closing logger name spent result).hasField ["msg", "self"] = false := by
    cases result <;> rfl
  -- the journal inside the block has the level of the one outside
  have henabled : (Journal.inOperation j.setup o).isEnabled (Journal.closing logger name spent result).logger
        (Journal.closing logger name spent result).method.severity.number
      = j.isEnabled logger (closingSeverity result).number := by
    cases result <;> rfl
  unfold Occurrence.reply Journal.call closingClashes
  dsimp only
  rw [hfree, henabled, misuse?_closing]
  cases logger == packageLogger || LogCall.rootNames.contains logger <;>
    cases j.isEnabled logger (closingSeverity result).number <;> rfl

/-- A logged function ends as it does by itself, unless its closing line cannot be logged. -/
theorem run_logged (logger name : String) (body : Script) (s : Surroundings) (j : Journal) :
    ((logged logger name body).run s j).1
      = if closingClashes j logger (body.run s (j.started s name)).1 then .error (.misuse .fieldClash)
        else (body.run s (j.started s name)).1 := by
  let c := body.courseIn s (j.started s name)
  have houtcome : (body.run s (j.started s name)).1 = c.outcome := by
    rw [run_eq]
  have hreply := reply_closing j s (some ⟨s.operationId j.opened, name⟩) logger name
    (duration (s.clock j.ticks) (s.clock c.usage.ticks)) c.outcome
  have hrun : ((logged logger name body).run s j).1
      = match Occurrence.reply ⟨some ⟨s.operationId j.opened, name⟩, Journal.closing logger name
            (duration (s.clock j.ticks) (s.clock c.usage.ticks)) c.outcome⟩ s j.setup with
        | .ok () => c.outcome
        | .error failure => .error failure := by
    rw [run_eq]
    rfl
  -- the closing line is written inside, where the log is set up as outside
  rw [hrun, hreply, houtcome]
  cases closingClashes j logger c.outcome <;> rfl

/-! ### What a client sees -/

/-- **Nesting like a stack**, for the run of a script on a journal. -/
structure Nests (script : Script) (s : Surroundings) (j : Journal) : Prop where
  /-- The run ends as its course does, in which blocks are told their own operation, and what comes behind a block the
  one around it. -/
  outcome : (script.run s j).1 = (script.courseIn s j).outcome
  /-- However it ends, the operations that were open before are open, and no others. -/
  restored : (script.run s j).2.operations = j.operations
  /-- What is written are the entries of the calls of loggers, in their order. -/
  entries : (script.run s j).2.entries
    = j.entries ++ (script.courseIn s j).calls.flatMap fun x => x.entries s j.setup
  /-- Each entry is written in the innermost operation around its call, or in none outside of all blocks. -/
  innermost : ∀ x ∈ (script.courseIn s j).calls, ∀ e ∈ x.entries s j.setup, e.operation = x.operation
  /-- The line of an entry tells this operation's identifier and name, unless a field of it has one of their names. -/
  told : ∀ x ∈ (script.courseIn s j).calls, ∀ e ∈ x.entries s j.setup, ∀ now entries,
    LogFormat.jsonEntries now e.operation e.record = .ok entries →
      entries.lookup "operation_id" = (e.record.fields.last? "operation_id").elim
        (x.operation.bind fun o => LogFormat.textEntry? o.id) (fun v => (Mask.shown "operation_id" v).toOption)
      ∧ entries.lookup "operation" = (e.record.fields.last? "operation").elim
        (x.operation.bind fun o => LogFormat.textEntry? o.name) (fun v => (Mask.shown "operation" v).toOption)
  /-- The operations that are opened take the identifiers that were not drawn yet, each of them once. -/
  fresh : (script.courseIn s j).blocks.map (·.id)
    = (List.range' j.opened (script.courseIn s j).blocks.length).map s.operationId
  /-- These are drawn afterwards, and no others. -/
  drawn : (script.run s j).2.opened = j.opened + (script.courseIn s j).blocks.length
  /-- A logged function ends as it does by itself inside of its operation, unless its closing line cannot be logged. -/
  wrapped : ∀ logger name body, script = logged logger name body →
    (script.run s j).1 =
      if closingClashes j logger (body.run s (j.started s name)).1 then .error (.misuse .fieldClash)
      else (body.run s (j.started s name)).1

/-- **Operations nest like a stack**, for every script, wherever it runs. -/
theorem nests (script : Script) (s : Surroundings) (j : Journal) : script.Nests s j where
  outcome := by rw [run_eq]
  restored := by rw [run_eq]; rfl
  entries := by rw [run_eq]; rfl
  innermost _ _ _ he := Occurrence.operation_of_mem he
  -- a line tells the operation that its entry was made in
  told x _ e he now entries hentries := by
    obtain ⟨message, _, hmessage, _⟩ := LogFormat.lookup_jsonEntries_eq hentries ""
    rw [Occurrence.operation_of_mem he] at hentries
    exact ⟨LogFormat.lookup_own hmessage hentries .operationId, LogFormat.lookup_own hmessage hentries .operationName⟩
  -- identifiers are drawn one after the other, from the first that is free
  fresh := (isFresh_course script s j.setup j.operations.head? ⟨j.opened, j.ticks⟩).ids
  drawn := by
    rw [run_eq]
    exact (isFresh_course script s j.setup j.operations.head? ⟨j.opened, j.ticks⟩).opened_eq
  wrapped logger name body hscript := by
    rw [hscript]
    exact run_logged logger name body s j

/-- A log that writes everything, before anything was written. -/
def debugging : Journal where
  setup := some ⟨Severity.debug.number, [.json], false⟩

/-- A logged function of the package's own module does its work, and its value is lost. -/
theorem logged_value_lost :
    ((done (.bool true)).run .numbered (debugging.started .numbered "work")).1 = .ok (.bool true)
      ∧ ((logged packageLogger "work" (done (.bool true))).run .numbered debugging).1 = .error (.misuse .fieldClash) := by
  refine ⟨rfl, ?_⟩
  rw [run_logged]
  rfl

end Script

end Shroud
