import Shroud.Text.Digit
import Shroud.Value.Basic

/-!
# Files of variables

A file of variables holds lines `NAME=value`, the first of which may follow a byte order mark. A line may
start with `export`, space around the equals sign is dropped, and `#` starts a comment where a name could
stand, after a quoted value, or after space in a value without quotes. Names may be in single quotes. Values
may be in single or double quotes, over several lines, with escapes; a backslash keeps a quote after it from
closing the value. A name without an equals sign has no value. What cannot be read is skipped up to the end
of the line on which it goes wrong.

In values, `${NAME}` and `${NAME:-default}` stand for variables of the file that were set before, or of the
environment.
-/

namespace Shroud.EnvFile

/-- A text whose lines all end in a line feed. -/
def unixLines : List Char → List Char
  | '\r' :: '\n' :: cs => '\n' :: unixLines cs
  | '\r' :: cs => '\n' :: unixLines cs
  | c :: cs => c :: unixLines cs
  | [] => []

/-- Space inside a line. -/
def isInlineSpace (c : Char) : Bool :=
  Text.isSpace c && c ≠ '\n'

/-- The text without the space it starts with on its line. -/
def skipSpace (cs : List Char) : List Char :=
  cs.dropWhile isInlineSpace

/-- The text after the first line. -/
def skipLine (cs : List Char) : List Char :=
  (cs.dropWhile (· ≠ '\n')).drop 1

/-- The text without `export` and space after it. -/
def skipExport (cs : List Char) : List Char :=
  match cs with
  | 'e' :: 'x' :: 'p' :: 'o' :: 'r' :: 't' :: rest =>
    if (rest.head?.map isInlineSpace).getD false then skipSpace rest else cs
  | _ => cs

/-- The name at the start of a text, and the rest. -/
def name? (cs : List Char) : Option (List Char × List Char) :=
  match cs with
  | '\x27' :: rest =>
    let name := rest.takeWhile (· ≠ '\x27')
    match rest.dropWhile (· ≠ '\x27') with
    | _ :: rest => if name = [] then none else some (name, rest)
    | [] => none
  | _ =>
    let isName (c : Char) := c ≠ '=' && c ≠ '#' && !Text.isSpace c
    let name := cs.takeWhile isName
    if name = [] then none else some (name, cs.dropWhile isName)

/-- What stands before the closing quote, and the rest. A backslash and the character after it belong
together. -/
def untilQuote (q : Char) : List Char → Option (List Char × List Char)
  | [] => none
  | '\\' :: c :: cs => (untilQuote q cs).map fun (inside, after) => ('\\' :: c :: inside, after)
  | c :: cs =>
    if c = q then some ([], cs)
    else if c = '\\' then none
    else (untilQuote q cs).map fun (inside, after) => (c :: inside, after)

/-- What a backslash and a letter stand for in double quotes. -/
def doubleQuoteEscapes : List (Char × Char) :=
  [('\\', '\\'), ('\x27', '\x27'), ('"', '"'), ('a', '\x07'), ('b', '\x08'), ('f', '\x0c'),
    ('n', '\n'), ('r', '\r'), ('t', '\t'), ('v', '\x0b')]

/-- What a backslash and a character stand for in single quotes. -/
def singleQuoteEscapes : List (Char × Char) :=
  [('\\', '\\'), ('\x27', '\x27')]

/-- A text with its escapes replaced. -/
def unescape (escapes : List (Char × Char)) : List Char → List Char
  | '\\' :: c :: cs =>
    match escapes.lookup c with
    | some d => d :: unescape escapes cs
    | none => '\\' :: unescape escapes (c :: cs)
  | c :: cs => c :: unescape escapes cs
  | [] => []

/-- A line without a comment that follows space. -/
def withoutComment : List Char → List Char
  | [] => []
  | c :: cs =>
    if Text.isSpace c && (cs.dropWhile Text.isSpace).head? == some '#' then []
    else c :: withoutComment cs

/-- The value after an equals sign, and the rest. Space after the sign is no part of the value, but a
comment may follow it. -/
def value? (cs : List Char) : Option (List Char × List Char) :=
  match skipSpace cs with
  | '\x27' :: rest =>
    (untilQuote '\x27' rest).map fun (s, after) => (unescape singleQuoteEscapes s, after)
  | '"' :: rest =>
    (untilQuote '"' rest).map fun (s, after) => (unescape doubleQuoteEscapes s, after)
  | _ =>
    let line := cs.takeWhile (· ≠ '\n')
    some (Text.trim Text.isSpace (withoutComment line), cs.dropWhile (· ≠ '\n'))

/-- The text after a comment, if there is one, and the end of the line. -/
def lineEnd? (cs : List Char) : Option (List Char) :=
  let rest := match skipSpace cs with
    | '#' :: comment => comment.dropWhile (· ≠ '\n')
    | _ => cs
  match skipSpace rest with
  | [] => some []
  | '\n' :: after => some after
  | _ => none

/-- A name with its value, if it has one. -/
abbrev Binding := String × Option String

/-- A binding that ends with its line, and the text after the line; anything else on the line undoes it. -/
def ended (b : Option Binding) (rest : List Char) : Option Binding × List Char :=
  match lineEnd? rest with
  | some after => (b, after)
  | none => (none, skipLine rest)

/-- The binding of a name, and the text after its line. -/
def bound (name : String) (rest : List Char) : Option Binding × List Char :=
  match skipSpace rest with
  | '=' :: rest =>
    match value? rest with
    | some (value, rest) => ended (some (name, some (String.ofList value))) rest
    | none => (none, skipLine rest)
  | rest => ended (some (name, none)) rest

/-- The binding at the start of a text that starts with no space, if there is one, and the text after its
line. A binding that cannot be read is skipped up to the end of the line on which it goes wrong. -/
def binding (cs : List Char) : Option Binding × List Char :=
  let cs := skipExport cs
  match cs with
  | '#' :: _ => ended none cs
  | _ =>
    match name? cs with
    | some (name, rest) => bound (String.ofList name) rest
    | none => (none, skipLine cs)

/-- The bindings of a text, of which there are at most `fuel`. -/
def bindingsWithin : (fuel : Nat) → List Char → List Binding
  | 0, _ => []
  | fuel + 1, cs =>
    match cs.dropWhile Text.isSpace with
    | [] => []
    | cs =>
      let (b, rest) := binding cs
      b.toList ++ bindingsWithin fuel rest

/-- A text without the byte order mark that it may start with. -/
def withoutMark : List Char → List Char
  | '\ufeff' :: cs => cs
  | cs => cs

/-- The bindings of a file in order. -/
def bindings (text : String) : List Binding :=
  bindingsWithin (text.length + 1) (unixLines (withoutMark text.toList))

/-- The variable that an opened brace names, with its default, and the text after the closing brace. -/
def reference? (cs : List Char) : Option (String × Option String × List Char) :=
  let name := String.ofList (cs.takeWhile fun c => c ≠ '\x7d' && c ≠ ':')
  match cs.dropWhile (fun c => c ≠ '\x7d' && c ≠ ':') with
  | '\x7d' :: rest => some (name, none, rest)
  | ':' :: '-' :: rest =>
    match rest.dropWhile (· ≠ '\x7d') with
    | _ :: after => some (name, some (String.ofList (rest.takeWhile (· ≠ '\x7d'))), after)
    | [] => none
  | _ => none

/-- A value with its references replaced, of which there are at most `fuel`; `lookup` gives the value of a
name that is set. -/
def expandWithin (lookup : String → Option (Option String)) : (fuel : Nat) → List Char → List Char
  | 0, cs => cs
  | _, [] => []
  | fuel + 1, '$' :: '\x7b' :: cs =>
    match reference? cs with
    | some (name, otherwise, rest) =>
      (((lookup name).getD otherwise).getD "").toList ++ expandWithin lookup fuel rest
    | none => '$' :: '\x7b' :: expandWithin lookup fuel cs
  | fuel + 1, c :: cs => c :: expandWithin lookup fuel cs

/-- A value with its references replaced. -/
def expand (lookup : String → Option (Option String)) (value : String) : String :=
  String.ofList (expandWithin lookup value.length value.toList)

/-- The variables after one more binding. -/
def bind (environment : List (String × String)) (set : List Binding) : Binding → List Binding
  | (name, none) => Assoc.set (· == ·) name none set
  | (name, some value) =>
    let lookup (n : String) := (set.lookup n).or ((environment.lookup n).map some)
    Assoc.set (· == ·) name (some (expand lookup value)) set

/-- **The variables that a file sets**, in an environment; the last binding of a name counts. -/
def read (environment : List (String × String)) (text : String) : List Binding :=
  (bindings text).foldl (bind environment) []

end Shroud.EnvFile
