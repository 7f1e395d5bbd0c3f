import Shroud.Engine.Mode
import Shroud.Envelope
import Shroud.Padding

/-!
# Encrypting and decrypting messages

`Engine.encrypt` pads a message and encrypts it under a password; `Engine.decrypt` takes an envelope and
gives the message back. `Engine.encryptEnvelope` fills what was not asked for from the settings, draws a
salt, and keeps the parameters with the ciphertext. The buffers in which messages are padded and unpadded are
wiped.

Decryption checks, in this order: that the password is one, that an envelope is offered, that its
algorithm is supported, that the ciphertext is whole blocks, and that the parameters are usable. Whatever is
wrong after that is the one failure of padding.
-/

namespace Shroud.Engine

/-- The name of the scheme that a value stands for. -/
def schemeName (v : Value) : String :=
  ((v.text?.bind Scheme.ofName?).map Scheme.name).getD ""

/-- The octets of what is handed over as a message; none for anything that has no octets. -/
def messageOctets : Option Bytes → Except Failure Bytes
  | some message => .ok message
  | none => .error (.misuse .messageKind)

/-- What comes out of a mode for a message. The buffer that it is padded in is wiped. -/
def encryptPadded (mode : Mode) (message : Bytes) : Op Bytes := do
  let padded ← Op.hold (.buffer (Padding.pad blockSize message))
  Op.clearing [padded] do
    let (encrypted, _) ← Op.ofResult (mode.crypt (← Op.octetsAt padded))
    return encrypted

/-- The message that comes out of a mode. It is unpadded in a buffer, and the buffer is wiped. -/
def decryptPadded (mode : Mode) (data : Bytes) : Op Bytes := do
  let (decrypted, _) ← Op.ofResult (mode.crypt data)
  let padded ← Op.hold (.buffer decrypted)
  Op.onBuffer padded (Padding.unpad blockSize)

/-- **Encrypting a message.** The message is looked at when the mode is there. -/
def encrypt (e : Engine) (scheme : Value) (message : Option Bytes) (salt : Bytes) (iterations : Int) :
    Op Bytes :=
  e.logged "pbe_encrypt" do
    let mode ← e.encrypterFor scheme salt iterations
    let message ← Op.ofResult (messageOctets message)
    let encrypted ← encryptPadded mode message
    e.note .debug "Encrypted payload" [("scheme", .text (schemeName scheme)),
      ("iterations", .int iterations), ("ciphertext_length", .int encrypted.length)]
    return encrypted

/-- The mode for what is offered to be decrypted, and the ciphertext. -/
def opening (e : Engine) : Option Envelope → Op (Mode × Bytes)
  | none => Op.consuming (Op.fail (.misuse .envelopeKind))
  | some envelope => Op.consuming do
    let d ← e.resolve envelope.algorithm
    Op.ofResult (checkAligned envelope.data.length d.blockSize)
    let mode ← e.decrypterFor envelope.algorithm
    return (mode, envelope.data)

/-- **Decrypting an envelope.** -/
def decrypt (e : Engine) (offered : Option Envelope) : Op Bytes :=
  e.logged "pbe_decrypt" do
    let (mode, data) ← e.opening offered
    decryptPadded mode data

/-- The salt that was given, or a fresh one. -/
def saltOrFresh (e : Engine) (length : Nat) : Option Bytes → Op Bytes
  | some salt => Op.ofResult (.ok salt)
  | none => Op.onSession fun s =>
    let (salt, s) := s.draw e.around length
    (.ok salt, s)

/-- The scheme that was asked for, or the default if none was. -/
def schemeOrDefault (settings : Settings) (v : Value) : Value :=
  if v.isTrue then v else .text settings.defaultScheme.name

/-- **Encrypting a message into an envelope.** -/
def encryptEnvelope (e : Engine) (message : Option Bytes) (scheme : Value) (iterations : Option Int)
    (salt : Option Bytes) : Op Envelope := do
  let settings ← e.currentSettings
  Op.consuming do
    let d ← e.scheme (schemeOrDefault settings scheme)
    let iterations := iterations.getD settings.defaultIterations
    let salt ← e.saltOrFresh settings.saltLength salt
    let data ← e.encrypt (.scheme d.scheme) message salt iterations
    return ⟨⟨.text d.oid, Parameters.encode ⟨salt, iterations⟩⟩, data⟩

end Shroud.Engine
