import Shroud.AlgorithmId
import Shroud.Descriptor
import Shroud.Engine.Basic

/-!
# Modes from passwords

The engine turns a password into a chaining mode. `Engine.buildMode` derives key and vector into buffers, wipes the
password, and opens the mode; then the cipher is closed and both buffers are wiped. `Engine.encrypterFor` takes the
scheme and parameters as they are given, `Engine.decrypterFor` from an algorithm identifier, whose iteration count must
be within the ceiling of the settings. A scheme or algorithm that is not supported is logged.
-/

namespace Shroud.Engine

/-- The result of a lookup; what is not supported is logged under a field's name. -/
def orWarn (e : Engine) (message field : String) : Except Failure Descriptor → Op Descriptor
  | .ok d => Op.ofResult (.ok d)
  | .error (.unsupported name) => do
    e.note .warning message [(field, .text name)]
    Op.fail (.unsupported name)
  | .error failure => Op.fail failure

/-- The descriptor of a scheme. -/
def scheme (e : Engine) (v : Value) : Op Descriptor :=
  e.orWarn "Unsupported PBE scheme requested" "scheme" (Descriptor.ofScheme v)

/-- The descriptor of an algorithm. -/
def resolve (e : Engine) (algorithm : AlgorithmId) : Op Descriptor :=
  e.orWarn "Unsupported PBE algorithm" "algorithm" (Descriptor.ofAlgorithm algorithm.algorithm)

/-- Key and vector, each in a buffer of its own. The password is read once for each. A key for which there is no vector
is wiped. -/
def derived (e : Engine) (d : Descriptor) (salt : Bytes) (iterations : Int) : Op (Nat × Nat) := do
  let octets ← Op.ofResult (d.deriveKey e.function salt (← Op.password) iterations)
  let key ← Op.hold (.buffer octets)
  let octets ← Op.clearingOnFailure [key] do
    Op.ofResult (d.deriveIv e.function salt (← Op.password) iterations)
  let iv ← Op.hold (.buffer octets)
  return (key, iv)

/-- Key and vector, after which the password is wiped. -/
def material (e : Engine) (d : Descriptor) (salt : Bytes) (iterations : Int) : Op (Nat × Nat) :=
  Op.consuming (e.derived d salt iterations)

/-- The mode for a direction under the key and the vector in two buffers, which are wiped when the cipher is closed. -/
def openMode (d : Descriptor) (direction : Direction) (key iv : Nat) : Op Mode :=
  Op.clearing [key, iv] do
    let cipher ← Op.ofResult (d.scheme.newCipher (← Op.octetsAt key))
    let cipher ← Op.hold (.cipher cipher)
    Op.clearing [cipher] do
      Op.openAt cipher (← Op.octetsAt iv) direction.label

/-- **A mode from the password.** -/
def buildMode (e : Engine) (d : Descriptor) (salt : Bytes) (iterations : Int) (direction : Direction) :
    Op Mode := do
  let (key, iv) ← e.material d salt iterations
  openMode d direction key iv

/-- **The encrypting mode of a scheme.** -/
def encrypterFor (e : Engine) (scheme : Value) (salt : Bytes) (iterations : Int) : Op Mode :=
  Op.consuming do
    let d ← e.scheme scheme
    e.buildMode d salt iterations .encrypt

/-- **The decrypting mode of an algorithm.** -/
def decrypterFor (e : Engine) (algorithm : AlgorithmId) : Op Mode :=
  Op.consuming do
    let d ← e.resolve algorithm
    let settings ← e.currentSettings
    let p ← Op.ofResult (algorithm.derivationParameters (some settings.maxIterations))
    e.buildMode d p.salt p.iterations .decrypt

end Shroud.Engine
