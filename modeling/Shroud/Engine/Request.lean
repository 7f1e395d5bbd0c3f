import Shroud.Engine.Message

/-!
# Requests to the engine

A `Request` is one call of the engine without its password, and `Engine.perform` runs it. Passwords lie in
a `Workspace` under names, beside the session that all calls share, and so does everything else that a client
hands over in a buffer. `Workspace.perform` runs a request on the password with a name, in the presence of all
that lies there. What the call leaves of this is the workspace afterwards, with what is left of the password in its
place, so that the effects of a run of calls can be followed.
-/

namespace Shroud

/-- A call of the engine. -/
inductive Request where
  /-- The encrypting mode of a scheme. -/
  | encrypterFor (scheme : Value) (salt : Bytes) (iterations : Int)
  /-- The decrypting mode of an algorithm. -/
  | decrypterFor (algorithm : AlgorithmId)
  /-- Encrypting a message. -/
  | encrypt (scheme : Value) (message : Option Bytes) (salt : Bytes) (iterations : Int)
  /-- Decrypting what is offered. -/
  | decrypt (offered : Option Envelope)
  /-- Encrypting a message into an envelope. -/
  | encryptEnvelope (message : Option Bytes) (scheme : Value) (iterations : Option Int)
    (salt : Option Bytes)

/-- What a call of the engine gives. -/
inductive Reply where
  | mode (m : Mode)
  | octets (bs : Bytes)
  | envelope (e : Envelope)

/-- **A request, carried out.** -/
def Engine.perform (e : Engine) : Request → Op Reply
  | .encrypterFor scheme salt iterations => do return .mode (← e.encrypterFor scheme salt iterations)
  | .decrypterFor algorithm => do return .mode (← e.decrypterFor algorithm)
  | .encrypt scheme message salt iterations => do
    return .octets (← e.encrypt scheme message salt iterations)
  | .decrypt offered => do return .octets (← e.decrypt offered)
  | .encryptEnvelope message scheme iterations salt => do
    return .envelope (← e.encryptEnvelope message scheme iterations salt)

/-- Passwords and other buffers by name, and the session that calls share. -/
structure Workspace where
  secrets : List (String × Secret)
  session : Session := {}

namespace Workspace

/-- The secret with a name. -/
def secret? (w : Workspace) (name : String) : Option Secret :=
  w.secrets.lookup name

/-- The workspace in which a name has another secret. -/
def put (w : Workspace) (name : String) (s : Secret) : Workspace :=
  { w with secrets := Assoc.set (· == ·) name s w.secrets }

/-- The call in which a secret is offered as the password. -/
def offering (w : Workspace) (s : Secret) : Call :=
  { custody := { offered := s }, session := w.session, others := w.secrets }

/-- **A request on the password with a name**; none when there is no such password. -/
def perform (w : Workspace) (e : Engine) (name : String) (request : Request) :
    Option (Except Failure Reply × Workspace) :=
  (w.secret? name).map fun s =>
    let (result, call) := e.perform request (w.offering s)
    (result, put { secrets := call.others, session := call.session } name call.custody.settle)

end Workspace

end Shroud
