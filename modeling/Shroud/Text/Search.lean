/-!
# Parts of a text

`Text.occurs` says whether a text stands somewhere inside another, and `Text.lines` cuts a text at its line
feeds.
-/

namespace Shroud.Text

/-- Whether `part` stands somewhere in a list of characters. -/
def occursIn (part : List Char) : List Char → Bool
  | [] => part.isEmpty
  | c :: cs => part.isPrefixOf (c :: cs) || occursIn part cs

/-- Whether `part` stands somewhere in `s`. -/
def occurs (part s : String) : Bool :=
  occursIn part.toList s.toList

/-- The lines of a list of characters, cut at every line feed. -/
def linesOf : List Char → List (List Char)
  | [] => [[]]
  | c :: cs =>
    if c = '\n' then [] :: linesOf cs
    else
      match linesOf cs with
      | line :: rest => (c :: line) :: rest
      | [] => [[c]]

/-- The lines of a text, cut at every line feed. -/
def lines (s : String) : List String :=
  (linesOf s.toList).map String.ofList

end Shroud.Text
