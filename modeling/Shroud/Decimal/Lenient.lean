import Shroud.Decimal.Integer

/-!
# Integers in free notation

`Decimal.lenient?` reads an integer from a text in which space around the number, a plus sign, leading
zeros, single underscores between digits and a fraction of zeros are allowed. Digits are those of ASCII.
What remains once these are dropped (`Decimal.bare?`) is digits without leading zeros after an optional
minus sign, which `Decimal.strict?` reads. Leading zeros are dropped once: those after a minus sign, or
those at the start of the number, behind which a minus sign may stand.

No integer of more than 4300 digits is read. `Decimal.isOversized` tells when a text is one as it stands,
with nothing to be dropped.
-/

namespace Shroud.Decimal

/-- Whether a character is a digit of ASCII. -/
def isDigit (c : Char) : Bool :=
  '0' ≤ c && c ≤ '9'

/-- The number written by digits alone. -/
def ofDigits (cs : List Char) : Nat :=
  cs.foldl (fun n c => n * 10 + (c.toNat - '0'.toNat)) 0

/-- The number written by at least one digit and nothing else. -/
def digits? (cs : List Char) : Option Nat :=
  if cs = [] ∨ !cs.all isDigit then none else some (ofDigits cs)

/-- Digits without leading zeros, at most `digitLimit` of them. -/
def natural? (cs : List Char) : Option Nat :=
  if (cs.head? = some '0' ∧ cs ≠ ['0']) ∨ digitLimit < cs.length then none else digits? cs

/-- Digits without leading zeros after an optional minus sign. -/
def strict? : List Char → Option Int
  | '-' :: cs => (natural? cs).map fun n => -(n : Int)
  | cs => (natural? cs).map Int.ofNat

/-- A text without one plus sign before it, which no minus sign may follow. -/
def withoutPlus : List Char → Option (List Char)
  | '+' :: '-' :: _ => none
  | '+' :: cs => some cs
  | cs => some cs

/-- What follows zeros and underscores, the last of which is `last`: it stays where neither another digit
nor a minus sign follows. -/
def afterZeros (last : Char) : List Char → Option (List Char)
  | [] => some [last]
  | c :: cs =>
    if c = '0' ∨ c = '_' then afterZeros c cs
    else if isDigit c ∨ c = '-' then some (c :: cs)
    else if c = '.' then some (last :: c :: cs)
    else none

/-- A text that starts with a digit, without leading zeros. -/
def trimmedDigits : List Char → Option (List Char)
  | [] => none
  | c :: cs => if c = '0' then afterZeros c cs else if isDigit c then some (c :: cs) else none

/-- A text without the leading zeros at its start or after a minus sign there. -/
def withoutLeadingZeros : List Char → Option (List Char)
  | '-' :: cs => (trimmedDigits cs).map ('-' :: ·)
  | cs => trimmedDigits cs

/-- A text without a fraction that has zeros and nothing else. -/
def withoutZeroFraction (cs : List Char) : List Char :=
  match cs.dropWhile (· ≠ '.') with
  | _ :: '0' :: fraction => if fraction.all (· = '0') then cs.takeWhile (· ≠ '.') else cs
  | _ => cs

/-- Whether two underscores stand next to each other. -/
def hasDoubleUnderscore : List Char → Bool
  | '_' :: '_' :: _ => true
  | _ :: cs => hasDoubleUnderscore cs
  | [] => false

/-- A text without its underscores, if they stand one by one and inside it. -/
def joined (cs : List Char) : List Char :=
  if cs.head? = some '_' ∨ cs.getLast? = some '_' ∨ hasDoubleUnderscore cs then cs
  else cs.filter (· ≠ '_')

/-- What is left of a text once everything that may be dropped is dropped. -/
def bare? (s : String) : Option (List Char) :=
  ((withoutPlus (Text.trim Text.isBlank s.toList)).bind withoutLeadingZeros).map fun cs =>
    joined (withoutZeroFraction cs)

/-- Whether a text starts with more digits, after an optional minus sign, than are ever read, the first of
which is no zero. -/
def isOversized (s : String) : Bool :=
  let unsigned := match s.toList with
    | '-' :: cs => cs
    | cs => cs
  let digits := unsigned.takeWhile isDigit
  digits.head? != some '0' && digitLimit < digits.length

/-- **An integer in free notation.** -/
def lenient? (s : String) : Option Int :=
  (bare? s).bind strict?

end Shroud.Decimal
