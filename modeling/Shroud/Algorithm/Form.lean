import Shroud.Bytes

/-!
# Forms of parameters

What the parameters of an algorithm have to be depends on the algorithm. A `Form` is what is prescribed:
a single value, the salt and the count that this library works with, or another structure, whose fields
`Form.fields` lists. Some fields are again identifiers of
algorithms, of the kind that a `Family` names, with parameters of their own.
-/

namespace Shroud.Algorithm

/-- The kinds of algorithms whose identifiers occur. -/
inductive Family where
  /-- Encryption. -/
  | cipher
  /-- Derivation of a key from a password. -/
  | derivation
  /-- Digests. -/
  | digest
  /-- Expansion of a seed into a mask. -/
  | mask
  /-- Where the label of padded data comes from. -/
  | label
  /-- Algorithms whose parameters may be anything. -/
  | other
  deriving DecidableEq, Repr

/-- What an element has to be. -/
inductive Form where
  /-- Any element of a known type. -/
  | any
  | null
  | integer
  | octetString
  /-- An identifier of an algorithm, with its parameters. -/
  | identifier (family : Family)
  /-- A salt, or the identifier of an algorithm that makes one. -/
  | saltOrSource
  /-- A salt and an iteration count. -/
  | saltAndCount
  /-- A vector, after a number that stands for effective key bits. -/
  | rc2Vector
  /-- A version, rounds and a block size, before a vector. -/
  | rc5Vector
  /-- A nonce and the length of the authentication code. -/
  | nonceAndLength
  /-- A salt, an iteration count, the length of the key, and a pseudorandom function. -/
  | keyFromPassword
  /-- A derivation and a cipher. -/
  | derivationAndCipher
  /-- A digest, a mask and a label for padding. -/
  | maskedPadding
  deriving DecidableEq, Repr

/-- Whether a field has to be there. -/
inductive Presence where
  | mandatory
  | optional
  /-- The field may be absent and then stands for these octets. -/
  | default (octets : Bytes)
  deriving DecidableEq, Repr

/-- A field of a structure. -/
structure Field where
  form : Form
  presence : Presence := .mandatory
  /-- The number of the context tag around the field, if there is one. -/
  tag : Option Nat := none
  deriving DecidableEq, Repr

/-- The pseudorandom function that is taken when none is named. -/
def defaultFunction : Bytes :=
  [0x30, 0x0a, 0x06, 0x08, 0x2a, 0x86, 0x48, 0x86, 0xf7, 0x0d, 0x02, 0x07]

/-- The digest of padding that is taken when none is named. -/
def defaultDigest : Bytes :=
  [0xa0, 0x0b, 0x30, 0x09, 0x06, 0x05, 0x2b, 0x0e, 0x03, 0x02, 0x1a, 0x05, 0x00]

/-- The mask of padding that is taken when none is named. -/
def defaultMask : Bytes :=
  [0xa1, 0x18, 0x30, 0x16, 0x06, 0x09, 0x2a, 0x86, 0x48, 0x86, 0xf7, 0x0d, 0x01, 0x01, 0x08, 0x30, 0x09,
    0x06, 0x05, 0x2b, 0x0e, 0x03, 0x02, 0x1a, 0x05, 0x00]

/-- The label of padding that is taken when none is named. -/
def defaultLabel : Bytes :=
  [0xa2, 0x0f, 0x30, 0x0d, 0x06, 0x09, 0x2a, 0x86, 0x48, 0x86, 0xf7, 0x0d, 0x01, 0x01, 0x09, 0x04, 0x00]

namespace Form

/-- **The fields of a structure** that is not read anywhere else, in order. -/
def fields : Form → List Field
  | rc2Vector => [⟨integer, .optional, none⟩, ⟨octetString, .mandatory, none⟩]
  | rc5Vector =>
    [⟨integer, .mandatory, none⟩, ⟨integer, .mandatory, none⟩, ⟨integer, .mandatory, none⟩,
      ⟨octetString, .optional, none⟩]
  | nonceAndLength => [⟨octetString, .mandatory, none⟩, ⟨integer, .mandatory, none⟩]
  | keyFromPassword =>
    [⟨saltOrSource, .mandatory, none⟩, ⟨integer, .mandatory, none⟩, ⟨integer, .optional, none⟩,
      ⟨identifier .other, .default defaultFunction, none⟩]
  | derivationAndCipher =>
    [⟨identifier .derivation, .mandatory, none⟩, ⟨identifier .cipher, .mandatory, none⟩]
  | maskedPadding =>
    [⟨identifier .digest, .default defaultDigest, some 0⟩,
      ⟨identifier .mask, .default defaultMask, some 1⟩, ⟨identifier .label, .default defaultLabel, some 2⟩]
  | _ => []

/-- The number of the universal tag that elements of a form have. -/
def number : Form → Nat
  | null => 5
  | integer => 2
  | octetString => 4
  | _ => 16

end Form

end Shroud.Algorithm
