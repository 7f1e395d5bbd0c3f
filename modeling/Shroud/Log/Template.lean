import Shroud.Log.Placeholder

/-!
# Templates of messages

The message of a log line is a template with placeholders, which start with a percent sign; two of these are a percent
sign. Behind it there may be, in this order: the name of an argument in parentheses, flags, a width, a point with a
precision, and a letter of C that means nothing here. The last character says how the argument is written
(`Layout.shown`). A star in the place of a width or a precision takes it from the arguments.

A template is read character by character (`Reader.step`) into its pieces, and the pieces are filled from the left,
each with what the arguments have next (`Supply`). A template without arguments is taken literally. Otherwise all
arguments have to be used, except that a single dictionary that is not empty may be left over. Of such a dictionary
placeholders can take entries by name.

Widths are as large as they are asked for, also where there is no memory for them.
-/

namespace Shroud

/-- A width or a precision. -/
inductive Amount where
  | absent
  | digits (n : Nat)
  /-- The next argument is the amount. -/
  | argument

/-- A placeholder as it stands in a template. -/
structure Placeholder extends Flags where
  /-- The name of the argument. -/
  name : Option String := none
  width : Amount := .absent
  precision : Amount := .absent
  /-- The last character, unless the template ends before it. -/
  letter : Option Char := none

/-- A piece of a template. -/
inductive Piece where
  | character (c : Char)
  | placeholder (p : Placeholder)
  /-- The rest of a template that ends inside the name of an argument. -/
  | unclosed

/-! ### Reading -/

/-- Where a reader of templates is. -/
inductive Reader where
  /-- Outside of placeholders. -/
  | text
  /-- Behind a percent sign. -/
  | start
  /-- Inside the name of an argument, and so many parentheses inside it. -/
  | name (depth : Nat) (soFar : List Char)
  | flags (p : Placeholder)
  /-- Behind a digit of the width. -/
  | width (p : Placeholder) (n : Nat)
  | behindWidth (p : Placeholder)
  | point (p : Placeholder)
  /-- Behind a digit of the precision. -/
  | precision (p : Placeholder) (n : Nat)
  | behindPrecision (p : Placeholder)
  | letter (p : Placeholder)

namespace Reader

/-- The number behind a further digit. -/
def further (n : Nat) (c : Char) : Nat :=
  10 * n + (c.toNat - '0'.toNat)

/-- The letter ends the placeholder. -/
def atLetter (p : Placeholder) (c : Char) : Reader × List Piece :=
  (text, [.placeholder { p with letter := some c }])

/-- A letter of C may stand before the letter. -/
def atModifier (p : Placeholder) (c : Char) : Reader × List Piece :=
  if c = 'h' ∨ c = 'l' ∨ c = 'L' then (letter p, []) else atLetter p c

/-- A precision may follow. -/
def atPoint (p : Placeholder) (c : Char) : Reader × List Piece :=
  if c = '.' then (point { p with precision := .digits 0 }, []) else atModifier p c

/-- A width may follow. -/
def atWidth (p : Placeholder) (c : Char) : Reader × List Piece :=
  if c = '*' then (behindWidth { p with width := .argument }, [])
  else if c.isDigit then (width p (further 0 c), [])
  else atPoint p c

/-- Flags may follow. -/
def atFlag (p : Placeholder) (c : Char) : Reader × List Piece :=
  match c with
  | '-' => (flags { p with leftAligned := true }, [])
  | '+' => (flags { p with plus := true }, [])
  | ' ' => (flags { p with blank := true }, [])
  | '#' => (flags { p with alternate := true }, [])
  | '0' => (flags { p with zeros := true }, [])
  | _ => atWidth p c

/-- **One character of a template**, and the piece that it completes. -/
def step : Reader → Char → Reader × List Piece
  | text, c => if c = '%' then (start, []) else (text, [.character c])
  | start, c =>
    if c = '%' then (text, [.character c])
    else if c = '(' then (name 0 [], [])
    else atFlag {} c
  | name depth soFar, c =>
    if c = '(' then (name (depth + 1) (soFar ++ [c]), [])
    else if c = ')' then
      match depth with
      | 0 => (flags { name := some (String.ofList soFar) }, [])
      | depth + 1 => (name depth (soFar ++ [c]), [])
    else (name depth (soFar ++ [c]), [])
  | flags p, c => atFlag p c
  | width p n, c => if c.isDigit then (width p (further n c), []) else atPoint { p with width := .digits n } c
  | behindWidth p, c => atPoint p c
  | point p, c =>
    if c = '*' then (behindPrecision { p with precision := .argument }, [])
    else if c.isDigit then (precision p (further 0 c), [])
    else atModifier p c
  | precision p n, c =>
    if c.isDigit then (precision p (further n c), []) else atModifier { p with precision := .digits n } c
  | behindPrecision p, c => atModifier p c
  | letter p, c => atLetter p c

/-- The piece that a template ends in. -/
def rest : Reader → List Piece
  | text => []
  | start => [.placeholder {}]
  | name .. => [.unclosed]
  | width p n => [.placeholder { p with width := .digits n }]
  | precision p n => [.placeholder { p with precision := .digits n }]
  | flags p | behindWidth p | point p | behindPrecision p | letter p => [.placeholder p]

/-- The pieces that are read from somewhere on. -/
def pieces : Reader → List Char → List Piece
  | r, [] => r.rest
  | r, c :: cs => (r.step c).2 ++ (r.step c).1.pieces cs

end Reader

/-! ### Filling -/

/-- What is left of the arguments. -/
structure Supply where
  next : List Value
  /-- The entries of the dictionary that the arguments are. -/
  names : Option (List (Value × Value)) := none

namespace Supply

/-- The arguments of a template. -/
def ofArguments : List Value → Supply
  | [.dict (entry :: entries)] => ⟨[.dict (entry :: entries)], some (entry :: entries)⟩
  | vs => { next := vs }

/-- The next argument. -/
def take : Supply → Except RenderFault (Value × Supply)
  | ⟨v :: vs, names⟩ => .ok (v, ⟨vs, names⟩)
  | ⟨[], _⟩ => .error .arguments

/-- The supply in which the argument with a name is next. -/
def named (s : Supply) (name : String) : Except RenderFault Supply :=
  match s.names with
  | none => .error .arguments
  | some entries =>
    match entries.find? fun (key, _) => key.sameKey (.text name) with
    | some (_, v) => .ok { s with next := [v] }
    | none => .error .missingName

/-- An amount that is an argument has to be an integer, and less than a bound. -/
def takeInteger (s : Supply) (bound : Nat) : Except RenderFault (Int × Supply) := do
  let (v, s) ← s.take
  let n ← v.index
  if n < -bound ∨ (bound : Int) ≤ n then .error .outOfRange
  else return (n, s)

end Supply

namespace Placeholder

/-- The least number that is no width. -/
def widthBound : Nat := Nat.pow 2 63

/-- The least number that is no precision. -/
def precisionBound : Nat := Nat.pow 2 31

/-- The layout with its width. A negative argument stands for a width that is filled at the right. -/
def withWidth (p : Placeholder) (s : Supply) : Except RenderFault (Layout × Supply) :=
  match p.width with
  | .absent => .ok ({ p.toFlags with }, s)
  | .digits n => if n < widthBound then .ok ({ p.toFlags with width := n }, s) else .error .placeholder
  | .argument => do
    let (n, s) ← s.takeInteger widthBound
    return ({ p.toFlags with leftAligned := p.leftAligned || n < 0, width := n.natAbs }, s)

/-- The layout with its width and precision. -/
def layout (p : Placeholder) (s : Supply) : Except RenderFault (Layout × Supply) := do
  let (l, s) ← p.withWidth s
  match p.precision with
  | .absent => return (l, s)
  | .digits n => if n < precisionBound then return ({ l with precision := some n }, s) else .error .placeholder
  | .argument =>
    let (n, s) ← s.takeInteger precisionBound
    return ({ l with precision := some n.toNat }, s)

/-- **The text of a placeholder**, and what is left of the arguments. -/
def fill (p : Placeholder) (s : Supply) : Except RenderFault (List Char × Supply) := do
  let s ← match p.name with
    | some name => s.named name
    | none => .ok s
  let (l, s) ← p.layout s
  match p.letter with
  | none => .error .placeholder
  | some letter =>
    let (v, s) ← s.take
    let shown ← l.shown letter v
    return (shown, s)

end Placeholder

/-- The text of a piece, and what is left of the arguments. -/
def Piece.fill : Piece → Supply → Except RenderFault (List Char × Supply)
  | character c, s => .ok ([c], s)
  | placeholder p, s => p.fill s
  | unclosed, s => .error (if s.names.isSome then .placeholder else .arguments)

namespace Template

/-- The filled pieces and the arguments that are left. -/
def fill : List Piece → Supply → Except RenderFault (List Char × Supply)
  | [], s => .ok ([], s)
  | piece :: pieces, s => do
    let (text, s) ← piece.fill s
    let (texts, s) ← fill pieces s
    return (text ++ texts, s)

/-- **The message of a template and its arguments.** -/
def render (template : String) (arguments : List Value) : Except RenderFault String :=
  if arguments.isEmpty then .ok template
  else do
    let (text, left) ← fill (Reader.text.pieces template.toList) (.ofArguments arguments)
    if left.next.isEmpty || left.names.isSome then return String.ofList text
    else .error .arguments

end Template

end Shroud
