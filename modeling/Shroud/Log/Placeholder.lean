import Shroud.Decimal.Fixed
import Shroud.Value.Printer

/-!
# Placeholders of templates

A placeholder says how an argument is written: by a letter, to a width and a precision, and with flags.

* `s`, `r` and `a` write its text, its inspection, and its inspection in ASCII; a precision is the most characters
  that are taken of it.
* `d`, `i` and `u` write a number without its fraction; `o`, `x` and `X` an integer to the base eight or sixteen. A
  precision is the least number of digits.
* `e`, `f` and `g` write a number as a double, in one of the ways of `Decimal.scientific`, `Decimal.fixed` and
  `Decimal.general`; as capitals they write capitals.
* `c` writes a character, which is given as itself or as its number.

`Layout.shown` is what a placeholder makes of a value. Texts hold no surrogates, so that the number of one is refused.
-/

namespace Shroud

/-- The flags of a placeholder. -/
structure Flags where
  /-- The text stands at the left of its width. -/
  leftAligned : Bool := false
  /-- A number that is not negative has a plus sign. -/
  plus : Bool := false
  /-- A number that is not negative has a blank for a sign. -/
  blank : Bool := false
  /-- A number shows its base, or its point. -/
  alternate : Bool := false
  /-- A number takes its width by zeros. -/
  zeros : Bool := false

/-- **How the text of an argument is laid out.** -/
structure Layout extends Flags where
  width : Nat := 0
  precision : Option Nat := none

namespace Layout

/-! ### Sign, marker and body -/

/-- What stands for the sign of a number. -/
def sign (l : Layout) (negative : Bool) : List Char :=
  if negative then ['-'] else if l.plus then ['+'] else if l.blank then [' '] else []

/-- **A text in its width.** The room that is left is to its right, before its sign, or filled with zeros behind sign
and marker. -/
def spread (l : Layout) (zeros : Bool) (sign marker body : List Char) : List Char :=
  let room := l.width - (sign ++ marker ++ body).length
  if l.leftAligned then sign ++ marker ++ body ++ List.replicate room ' '
  else if zeros then sign ++ marker ++ List.replicate room '0' ++ body
  else List.replicate room ' ' ++ sign ++ marker ++ body

/-- A text, of which a precision takes the beginning. -/
def text (l : Layout) (s : List Char) : List Char :=
  l.spread false [] [] (match l.precision with
    | some n => s.take n
    | none => s)

/-- The digits of an integer, behind a marker of its base. -/
def integer (l : Layout) (base : Nat) (marker : List Char) (n : Int) : List Char :=
  let digits := Nat.toDigits base n.natAbs
  l.spread l.zeros (l.sign (n < 0)) (if l.alternate then marker else [])
    (List.replicate (l.precision.getD 0 - digits.length) '0' ++ digits)

/-- A double by the letter that says how. -/
def double (l : Layout) (letter : Char) (x : Binary64) : List Char :=
  let precision := l.precision.getD 6
  match x with
  | .nan => l.spread l.zeros (l.sign false) [] "nan".toList
  | .infinite negative => l.spread l.zeros (l.sign negative) [] "inf".toList
  | .finite negative m q =>
    let (num, den) := Binary64.fraction m q
    l.spread l.zeros (l.sign negative) [] (match letter with
      | 'e' => Decimal.scientific precision l.alternate num den
      | 'f' => Decimal.fixed precision l.alternate num den
      | _ => Decimal.general (max 1 precision) l.alternate num den)

end Layout

/-! ### Values in placeholders -/

namespace Value

/-- The number that a value stands for, without its fraction. -/
def whole : Value → Except RenderFault Int
  | .float bits =>
    match Binary64.ofBits bits with
    | .nan => .error .notNumber
    | x =>
      match x.truncate? with
      | some n => .ok n
      | none => .error .infinite
  | v =>
    match v.integer? with
    | some n => .ok n
    | none => .error .arguments

/-- The integer that a value is. -/
def index : Value → Except RenderFault Int
  | .float _ => .error .arguments
  | v => v.whole

/-- The double that a number is as near to as can be. -/
def double : Value → Except RenderFault Binary64
  | .float bits => .ok (Binary64.ofBits bits)
  | v => do
    match Binary64.ofInt? (← v.index) with
    | some x => .ok x
    | none => .error .outOfRange

/-- The character that a value is, or is the number of. -/
def character : Value → Except RenderFault Char
  | .text s =>
    match s.toList with
    | [c] => .ok c
    | _ => .error .arguments
  | v => do
    let n ← v.index
    if n < 0 ∨ 0x110000 ≤ n then .error .outOfRange
    else if n.toNat.isValidChar then .ok (Char.ofNat n.toNat)
    else .error .surrogate

end Value

/-- **What a placeholder makes of a value.** -/
def Layout.shown (l : Layout) (letter : Char) (v : Value) : Except RenderFault (List Char) :=
  match letter with
  | 's' => v.display.map fun s => l.text s.toList
  | 'r' => v.inspect.map fun s => l.text s.toList
  | 'a' => v.inspect.map fun s => l.text (s.toList.flatMap Text.inAscii)
  | 'd' | 'i' | 'u' => do
    let n ← v.whole
    if Decimal.inBounds n then return { l with alternate := false }.integer 10 [] n
    else .error .oversizedInteger
  | 'o' => v.index.map (l.integer 8 ['0', 'o'])
  | 'x' => v.index.map (l.integer 16 ['0', 'x'])
  | 'X' => v.index.map fun n => (l.integer 16 ['0', 'X'] n).map Char.toUpper
  | 'e' | 'f' | 'g' => v.double.map (l.double letter)
  | 'E' | 'F' | 'G' => v.double.map fun x => (l.double letter.toLower x).map Char.toUpper
  | 'c' => v.character.map fun c => l.spread false [] [] [c]
  | _ => .error .placeholder

end Shroud
