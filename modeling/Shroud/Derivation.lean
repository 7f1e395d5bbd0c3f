import Shroud.Digest.Named
import Shroud.Secret

/-!
# Key derivation

Octets for keys and initialization vectors are derived from a salt and a password by iterated hashing.

* `Derivation.stretch` repeats a string cyclically to whole blocks; the salt and the password, both
  stretched, are the input block string.
* Each round hashes the diversifier block and the input `iterations` times and yields one digest output.
* `Derivation.advance` moves the input on: to every block of it the repeated output and one are added,
  as numbers modulo the block's size, so that no carry leaves a block.
* `Derivation.generate` produces rounds until there are as many octets as asked for.

The construction is stated for any `Digest`. `Derivation.derive` is its checked entry: the digest's name,
the count, the length and the diversifier are looked at in this order. `Derivation.deriveFrom` takes the
password as a client hands it over, and looks at its kind last.
-/

namespace Shroud.Derivation

/-- `data` repeated cyclically to the next multiple of `blockSize` octets; the empty string stays
empty. -/
def stretch (blockSize : Nat) (data : Bytes) : Bytes :=
  Bytes.cycle (blockSize * ((data.length + blockSize - 1) / blockSize)) data

/-- `stretch` for any block size. The size of the result is the multiple that the division of
`data.length + blockSize - 1`, rounded down, gives; where it is negative the result is empty. For block size
zero only the empty string can be stretched. -/
def stretch? (blockSize : Int) (data : Bytes) : Except Failure Bytes :=
  if data = [] then .ok []
  else if blockSize = 0 then .error (.misuse .zeroBlockSize)
  else .ok (Bytes.cycle (blockSize * Int.fdiv (data.length + blockSize - 1) blockSize).toNat data)

/-- The block of `size` octets with `addend + 1` added to it, modulo `2 ^ (8 * size)`. -/
def addToBlock (size addend : Nat) (block : Bytes) : Bytes :=
  Bytes.ofNat size ((block.toNat + addend + 1) % Nat.pow 2 (8 * size))

/-- **The input of the next round.** Every block has the output, repeated to the block's size, and one
added to it. -/
def advance (blockSize : Nat) (output input : Bytes) : Bytes :=
  let addend := (Bytes.cycle blockSize output).toNat
  (Bytes.pieces blockSize input).flatMap (addToBlock blockSize addend)

/-- The output of one round. -/
def roundOutput (H : Digest) (diversifier : Bytes) (iterations : Nat) (input : Bytes) : Bytes :=
  H.iterate iterations (diversifier ++ input)

theorem length_iterate_pos (H : Digest) {rounds : Nat} (h : 0 < rounds) (message : Bytes) :
    (H.iterate rounds message).length = H.outputSize := by
  induction rounds generalizing message with
  | zero => omega
  | succ rounds ih =>
    cases rounds with
    | zero => exact H.length_hash message
    | succ rounds => exact ih (Nat.succ_pos _) _

theorem length_roundOutput (H : Digest) (diversifier : Bytes) {iterations : Nat}
    (h : 0 < iterations) (input : Bytes) :
    (roundOutput H diversifier iterations input).length = H.outputSize :=
  length_iterate_pos H h _

/-- `length` octets from rounds that start with `input`. -/
def generate (H : Digest) (diversifier : Bytes) (iterations : Nat) (positive : 0 < iterations)
    (input : Bytes) (length : Nat) : Bytes :=
  let output := roundOutput H diversifier iterations input
  if _enough : length ≤ output.length then output.take length
  else output ++ generate H diversifier iterations positive (advance H.blockSize output input)
    (length - output.length)
termination_by length
decreasing_by
  have hout := length_roundOutput H diversifier positive input
  have hpos := H.outputSize_pos
  omega

/-- The input of the first round: the stretched salt and the stretched password. -/
def firstInput (H : Digest) (salt password : Bytes) : Bytes :=
  stretch H.blockSize salt ++ stretch H.blockSize password

/-- The diversifier block: the purpose's octet, repeated. -/
def diversifierBlock (H : Digest) (id : Nat) : Bytes :=
  List.replicate H.blockSize (UInt8.ofNat id)

/-- The derived octets for arguments that are in range. -/
def deriveWith (H : Digest) (salt password : Bytes) (iterations : Nat) (positive : 0 < iterations)
    (id length : Nat) : Bytes :=
  generate H (diversifierBlock H id) iterations positive (firstInput H salt password) length

/-- The digest that a value asks for by its name. -/
def digestOf (v : Value) : Except Failure Digest :=
  if !v.isKey then .error (.misuse .digestKind)
  else
    match v.text?.bind Digest.named? with
    | some H => .ok H
    | none =>
      match v.display with
      | .ok shown => .error (.derivation (.unknownDigest shown))
      | .error fault => .error (.misuse (.rendering fault))

/-- A derivation function: salt, password, iteration count, diversifier, length, and the name of a
digest. -/
abbrev Function :=
  (salt password : Bytes) → (iterations id length : Int) → (digest : Value) → Except Failure Bytes

/-- **Derivation.** Refused for an unknown digest, for a count below one, for a length below one, and for
a diversifier that is no octet, whichever comes first. -/
def derive : Function := fun salt password iterations id length digest =>
  match digestOf digest with
  | .error failure => .error failure
  | .ok H =>
    if positive : 0 < iterations.toNat then
      if length < 1 then .error (Failure.derivation (.outputLength length)).checked
      else if id < 0 ∨ 255 < id then .error (.misuse .diversifier)
      else .ok (deriveWith H salt password iterations.toNat positive id.toNat length.toNat)
    else .error (Failure.derivation (.iterations iterations)).checked

/-- Derivation from a password as it is handed over. An absent password and an empty text have no
octets; any other text is refused, once nothing else is. -/
def deriveFrom (salt : Bytes) (password : Secret) (iterations id length : Int) (digest : Value) :
    Except Failure Bytes := do
  let derived ← derive salt (password.octets?.getD []) iterations id length digest
  match password with
  | .text s => if s.isEmpty then return derived else throw (.misuse .textPassword)
  | _ => return derived

end Shroud.Derivation
