import Shroud.AlgorithmId

/-!
# Envelopes

An `Envelope` is ciphertext together with the identifier of the algorithm that produced it. It is found in
two structures, both sequences:

* encrypted private key information: the identifier and an octet string;
* encrypted content information: a content type, the identifier, and the ciphertext as an octet string
  under the context tag zero, which may be absent.

Both may have further elements. Envelopes are written as encrypted private key information.
-/

namespace Shroud

open Ber

/-- Ciphertext and the algorithm that produced it. -/
structure Envelope where
  algorithm : AlgorithmId
  data : Bytes

namespace Envelope

/-- The elements of the sequence at the start of an encoding. -/
def fields? (raw : Bytes) : Option (List Element) :=
  (Element.read raw).bind fun (e, _) => e.sequence?

/-- Ciphertext that was found, or that there is none. -/
def found (data : Option Bytes) : Except Failure Bytes :=
  match data with
  | some bs => .ok bs
  | none => .error (.misuse (.encoding .malformed))

/-- **The envelope in encrypted private key information.** -/
def ofPrivateKeyInfo (raw : Bytes) : Except Failure Envelope :=
  match fields? raw with
  | some (algorithm :: data :: _) => do
    let algorithm ← AlgorithmId.ofElement algorithm
    let data ← found data.octetString?
    return ⟨algorithm, data⟩
  | _ => .error (.misuse (.encoding .malformed))

/-- **The envelope in encrypted content information.** The ciphertext is looked at before the
identifier. -/
def ofContentInfo (raw : Bytes) : Except Failure Envelope :=
  match fields? raw with
  | some (_ :: algorithm :: rest) =>
    match rest.head?.filter fun e => e.header.tagClass = .context ∧ e.header.number = 0 with
    | some data => do
      let data ← found (data.implicitOctetString? 0)
      let algorithm ← AlgorithmId.ofElement algorithm
      return ⟨algorithm, data⟩
    | none => .error (.parameters .noContent)
  | _ => .error (.misuse (.encoding .malformed))

/-- **The encrypted private key information of an envelope.** -/
def toPrivateKeyInfo (e : Envelope) : Except Failure Bytes := do
  let algorithm ← e.algorithm.encode
  return Der.sequence [algorithm, Der.octetString e.data]

end Envelope

end Shroud
