import Shroud.Cipher.Keyed
import Shroud.Derivation

/-!
# Scheme descriptors

A `Descriptor` holds everything needed to run a scheme: the sizes of the material it derives, the digest
that drives the derivation, and the cipher the derived key goes into. `Descriptor.derive` checks that a
derivation function returned as many octets as the scheme needs.

Schemes and algorithms are looked up from values of any kind: `Descriptor.ofScheme` accepts a scheme or
exactly its name, `Descriptor.ofAlgorithm` exactly the text of its object identifier. Whatever else is
asked for is reported as not supported, by the text of the value.
-/

namespace Shroud

/-- How a scheme is run. -/
structure Descriptor where
  scheme : Scheme
  oid : String
  keySize : Int
  ivSize : Int
  blockSize : Int
  /-- The name of the digest. -/
  digest : Value

/-- The descriptor of a registered scheme. -/
def Scheme.descriptor : Scheme → Descriptor
  | .tripleDes => ⟨.tripleDes, Scheme.tripleDes.oid, 24, 8, 8, .text "sha1"⟩
  | .rc2 => ⟨.rc2, Scheme.rc2.oid, 5, 8, 8, .text "sha1"⟩

/-- The cipher of a scheme under a key; RC2 takes all bits of the key as effective. -/
def Scheme.newCipher : Scheme → Bytes → Except Failure Cipher
  | .tripleDes, key => Cipher.tripleDes key
  | .rc2, key => Cipher.rc2 key (8 * key.length)

/-- The failure for something that is not registered. -/
def Failure.notSupported (v : Value) : Failure :=
  match v.display with
  | .ok s => .unsupported s
  | .error fault => .misuse (.rendering fault)

namespace Descriptor

/-- Octets for a purpose, as many as asked for. -/
def derive (d : Descriptor) (function : Derivation.Function) (purpose : Purpose) (size : Int)
    (salt password : Bytes) (iterations : Int) : Except Failure Bytes := do
  let derived ← function salt password iterations purpose.id size d.digest
  if (derived.length : Int) ≠ size then
    .error (Failure.derivation (.wrongLength purpose derived.length d.scheme size)).checked
  else .ok derived

/-- The cipher key. -/
def deriveKey (d : Descriptor) (function : Derivation.Function) (salt password : Bytes)
    (iterations : Int) : Except Failure Bytes :=
  d.derive function .key d.keySize salt password iterations

/-- The initialization vector. -/
def deriveIv (d : Descriptor) (function : Derivation.Function) (salt password : Bytes)
    (iterations : Int) : Except Failure Bytes :=
  d.derive function .iv d.ivSize salt password iterations

/-- **The descriptor of a scheme**, given as the scheme or by its exact name. -/
def ofScheme (v : Value) : Except Failure Descriptor :=
  match v.text?.bind Scheme.ofName? with
  | some s => .ok s.descriptor
  | none => .error (.notSupported v)

/-- **The descriptor of an algorithm**, given by the exact text of its object identifier. -/
def ofAlgorithm (v : Value) : Except Failure Descriptor :=
  match v.text?.bind Scheme.ofOid? with
  | some s => .ok s.descriptor
  | none => .error (.notSupported v)

end Descriptor

end Shroud
