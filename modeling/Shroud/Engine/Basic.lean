import Shroud.Cipher.Keyed
import Shroud.Derivation
import Shroud.Secret
import Shroud.Session

/-!
# Operations of the engine

An operation of the engine works on a `Call`: the custody of the password it was given, the session, the
other secrets of the client, and the tools that the engine makes for itself. It fails or succeeds, and
leaves a call in either case, so that what happens to a password or a buffer on the way of a failure is part
of its result.

* `Op.consuming` claims the password, works with it, and wipes it however the work ends;
* `Op.clearing` clears tools however the work with them ends, `Op.clearingOnFailure` only if it fails;
* `Op.logged` works inside an operation of the journal, which the closing line ends.

A `Tool` lies where it was put (`Op.hold`), and is read and written there. So work with a tool that was
cleared too early comes to another result, and what is never cleared is left in the call. The buffers inside a
derivation, which gives a value, are no tools.

An `Engine` has settings of its own or takes those of the session.
-/

namespace Shroud

/-- What the engine makes for itself during a call. -/
inductive Tool where
  /-- A buffer with octets. -/
  | buffer (octets : Bytes)
  /-- A cipher with its key. -/
  | cipher (c : Cipher)

/-- The tool after its use: a buffer is wiped, a cipher closed. -/
def Tool.cleared : Tool → Tool
  | buffer octets => buffer (Bytes.wiped octets)
  | cipher c => cipher c.close

/-- The tools, those at some places cleared. -/
def Tool.clearAt (places : List Nat) (tools : List Tool) : List Tool :=
  places.foldl (fun tools place => tools.modify place cleared) tools

/-- What an operation works on. -/
structure Call where
  custody : Custody
  session : Session
  /-- The secrets that lie beside the password, by name. -/
  others : List (String × Secret) := []
  /-- The tools that were made so far. -/
  tools : List Tool := []

/-- The call with another journal. -/
def Call.withJournal (j : Journal) (c : Call) : Call :=
  { c with session := { c.session with journal := j } }

/-- The call in which the tools at some places are cleared. -/
def Call.clear (places : List Nat) (c : Call) : Call :=
  { c with tools := Tool.clearAt places c.tools }

/-- An operation with a result. -/
def Op (α : Type) : Type := Call → Except Failure α × Call

namespace Op

variable {α β : Type}

/-- The operation that does nothing and has this result. -/
protected def pure (a : α) : Op α :=
  fun c => (.ok a, c)

/-- One operation after another; a failure ends both. -/
protected def bind (x : Op α) (f : α → Op β) : Op β :=
  fun c =>
    match x c with
    | (.ok a, c) => f a c
    | (.error failure, c) => (.error failure, c)

instance : Monad Op where
  pure := Op.pure
  bind := Op.bind

/-- An operation whose result is already there. -/
def ofResult (result : Except Failure α) : Op α :=
  fun c => (result, c)

/-- The operation that fails. -/
def fail (failure : Failure) : Op α :=
  fun c => (.error failure, c)

/-- What is held of the password. -/
def password : Op Bytes :=
  fun c => (.ok c.custody.octets, c)

/-- An operation on the session alone. -/
def onSession (f : Session → Except Failure α × Session) : Op α :=
  fun c =>
    let (result, session) := f c.session
    (result, { c with session })

/-- **Work with the password, which is wiped however the work ends.** -/
def consuming (work : Op α) : Op α :=
  fun c =>
    match c.custody.claim with
    | .error failure => (.error failure, c)
    | .ok custody =>
      let (result, after) := work { c with custody }
      (result, { after with custody := after.custody.wipe })

/-- A new tool, and its place. -/
def hold (tool : Tool) : Op Nat :=
  fun c => (.ok c.tools.length, { c with tools := c.tools ++ [tool] })

/-- Work on a buffer where it lies. What is no buffer is refused. -/
def onBuffer (place : Nat) (f : Bytes → Except Failure α × Bytes) : Op α :=
  fun c =>
    match c.tools[place]? with
    | some (.buffer octets) =>
      let (result, after) := f octets
      (result, { c with tools := c.tools.set place (.buffer after) })
    | _ => (.error (.misuse .wipeKind), c)

/-- The octets in a buffer. -/
def octetsAt (place : Nat) : Op Bytes :=
  onBuffer place fun octets => (.ok octets, octets)

/-- A mode, opened on a cipher where it lies. Where there is none it is as if it were closed. -/
def openAt (place : Nat) (iv : Bytes) (label : String) : Op Mode :=
  fun c =>
    match c.tools[place]? with
    | some (.cipher cipher) => (cipher.openMode iv label, c)
    | _ => (.error (.cipher .closed), c)

/-- **Work with tools that are cleared however it ends.** -/
def clearing (places : List Nat) (work : Op α) : Op α :=
  fun c =>
    let (result, after) := work c
    (result, after.clear places)

/-- Work with tools that are cleared if it fails. -/
def clearingOnFailure (places : List Nat) (work : Op α) : Op α :=
  fun c =>
    match work c with
    | (.ok a, after) => (.ok a, after)
    | (.error failure, after) => (.error failure, after.clear places)

/-- A line of the journal. -/
def note (around : Surroundings) (logger : String) (severity : Severity) (message : String)
    (fields : Fields) : Op Unit :=
  fun c => (.ok (), c.withJournal (c.session.journal.note around logger severity message fields))

/-- **Work inside an operation of the journal.** -/
def logged (around : Surroundings) (logger name : String) (work : Op α) : Op α :=
  Journal.timed (·.session.journal) Call.withJournal around logger name work

end Op

/-- What encrypts and decrypts. -/
structure Engine where
  /-- The engine's own settings. -/
  settings : Option Settings := none
  /-- How key material is derived. -/
  function : Derivation.Function := Derivation.derive
  around : Surroundings

namespace Engine

/-- The logger of the engine. -/
def logger : String := "pkcs12_pbe.pbe"

/-- A line of the engine. -/
def note (e : Engine) (severity : Severity) (message : String) (fields : Fields) : Op Unit :=
  Op.note e.around logger severity message fields

/-- An operation of the engine under its name. -/
def logged {α : Type} (e : Engine) (name : String) (work : Op α) : Op α :=
  Op.logged e.around logger name work

/-- The settings that count for the engine: its own, or those of the session. -/
def settingsIn (e : Engine) (s : Session) : Except Failure Settings × Session :=
  match e.settings with
  | some settings => (.ok settings, s)
  | none => s.settings

/-- Reading the settings that count. -/
def currentSettings (e : Engine) : Op Settings :=
  Op.onSession e.settingsIn

end Engine

end Shroud
