/-!
# Lower case

`Text.lower` turns letters into lower case as far as letters of ASCII come out of it: the capitals of
ASCII, the Kelvin sign, and the capital I with a dot, which becomes an i and a combining dot. All other
characters stay as they are, so the result is meant for comparing with texts in ASCII.
-/

namespace Shroud.Text

/-- A character in lower case, as far as letters of ASCII come out of it. -/
def lowerChar (c : Char) : List Char :=
  if c = '\u212a' then ['k']
  else if c = '\u0130' then ['i', '\u0307']
  else [c.toLower]

/-- A text in lower case, as far as letters of ASCII come out of it. -/
def lower (s : String) : String :=
  String.ofList (s.toList.flatMap lowerChar)

end Shroud.Text
