import Shroud.Text.Digit

/-!
# Integers in decimal

Integers are written without leading zeros, negative ones after a minus sign. A number of more than
4300 digits is neither written nor read: `Decimal.text?` and `Decimal.read?` give nothing for it.
-/

namespace Shroud.Decimal

/-- The most digits that are written or read. -/
def digitLimit : Nat := 4300

/-- The least number with more than `digitLimit` digits. -/
def bound : Nat := Nat.pow 10 digitLimit

/-- Whether an integer has at most `digitLimit` digits. -/
def inBounds (n : Int) : Bool := n.natAbs < bound

/-- An integer in decimal, of any size. -/
def ofInt (n : Int) : String :=
  let digits := String.ofList (Nat.toDigits 10 n.natAbs)
  if n < 0 then "-" ++ digits else digits

/-- An integer in decimal, unless it has more than `digitLimit` digits. -/
def text? (n : Int) : Option String :=
  if inBounds n then some (ofInt n) else none

/-- The number written by digits, after the ones read so far; an underscore may stand between two
digits. `digit?` gives the value of a digit. -/
def readDigits (digit? : Char → Option Nat) : (soFar : Nat) → List Char → Option Nat
  | n, [] => some n
  | n, '_' :: c :: cs =>
    match digit? c with
    | some d => readDigits digit? (n * 10 + d) cs
    | none => none
  | n, c :: cs =>
    match digit? c with
    | some d => readDigits digit? (n * 10 + d) cs
    | none => none

/-- The number written by at least one digit. -/
def readNat (digit? : Char → Option Nat) : List Char → Option Nat
  | [] => none
  | c :: cs =>
    match digit? c with
    | some d => readDigits digit? d cs
    | none => none

/-- Digits after an optional sign. -/
def readSigned (digit? : Char → Option Nat) : List Char → Option Int
  | '-' :: cs => (readNat digit? cs).map fun n => -(n : Int)
  | '+' :: cs => (readNat digit? cs).map Int.ofNat
  | cs => (readNat digit? cs).map Int.ofNat

/-- **Reading an integer.** Blanks around it are dropped, a sign may precede it, its digits may be of any
script, and single underscores may stand between them. -/
def read? (s : List Char) : Option Int :=
  let s := Text.trim Text.isBlank s
  if digitLimit < (s.filter fun c => (Text.digitValue? c).isSome).length then none
  else readSigned Text.digitValue? s

end Shroud.Decimal
