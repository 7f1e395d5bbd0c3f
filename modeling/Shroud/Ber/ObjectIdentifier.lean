import Shroud.Ber.Primitive
import Shroud.Ber.Der
import Shroud.Decimal.Integer

/-!
# Object identifiers

An object identifier is a sequence of numbers, its arcs. Encoded, the first two arcs are merged into one
number (forty times the first plus the second), and every number is written in groups of seven bits, the
last group of a number without the continuation bit. As text the arcs stand between dots.

* `ObjectIdentifier.dotted?` gives the text of encoded contents. An unfinished last number is dropped, and
  there is no text when an arc has more than 4300 digits.
* `ObjectIdentifier.contents?` encodes a text. Arcs are read as integers in decimal; a first arc above two,
  or a second arc above 39 below a first arc of zero or one, has no encoding. A single arc has no
  octets.
* `ObjectIdentifier.renewed?` encodes the text of encoded contents.
-/

namespace Shroud.Ber.ObjectIdentifier

/-- The numbers that groups of seven bits stand for, after groups that gave `n`. -/
def groups : (n : Nat) → Bytes → List Nat
  | _, [] => []
  | n, b :: bs =>
    let n := n * 128 + b.toNat % 128
    if b.toNat < 128 then n :: groups 0 bs else groups n bs

/-- The arcs that numbers stand for: the first number is split into two. -/
def arcs : List Nat → List Nat
  | [] => []
  | n :: rest =>
    if 80 ≤ n then 2 :: (n - 80) :: rest
    else if 40 ≤ n then 1 :: (n - 40) :: rest
    else 0 :: n :: rest

/-- The text of encoded contents. -/
def dotted? (contents : Bytes) : Option String :=
  ((arcs (groups 0 contents)).mapM fun n : Nat => Decimal.text? n).map (".".intercalate ·)

/-- The groups of seven bits of a number, all with the continuation bit, followed by the given octets. -/
def continued (n : Nat) (after : Bytes) : Bytes :=
  if n = 0 then after
  else continued (n / 128) (UInt8.ofNat (128 + n % 128) :: after)

/-- A number in groups of seven bits; of a negative one, only the lowest group. -/
def arcOctets (n : Int) : Bytes :=
  let last := UInt8.ofNat (n % 128).toNat
  if n < 0 then [last] else continued (n.toNat / 128) [last]

/-- The encoded contents of arcs. -/
def encodeArcs : List Int → Option Bytes
  | [] => none
  | [_] => some []
  | first :: second :: rest =>
    if 2 < first ∨ (first < 2 ∧ 40 ≤ second) then none
    else some (((40 * first + second) :: rest).flatMap arcOctets)

/-- **The encoded contents of a text**: arcs between dots. -/
def contents? (s : String) : Option Bytes :=
  ((s.toList.splitOn '.').mapM Decimal.read?).bind encodeArcs

/-- Encoded contents anew: without an unfinished number and without leading zero groups. -/
def renewed? (contents : Bytes) : Option Bytes :=
  (dotted? contents).bind contents?

/-- The text of an object identifier element. -/
def ofElement? (e : Element) : Option String :=
  if e.isUniversal 6 && !e.header.constructed then dotted? e.contents else none

/-- An object identifier element with the given contents. -/
def element (contents : Bytes) : Bytes :=
  Der.element 0x06 contents

end Shroud.Ber.ObjectIdentifier
