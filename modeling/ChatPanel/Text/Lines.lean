/-!
# The lines of a text

A line ends at a carriage return followed by a line feed, at a carriage return alone or at a line
feed alone.  Every break separates two lines, so a text with `n` breaks has `n + 1` lines and the
empty text has one.  No other character breaks a line: not the vertical tab, not the form feed,
not the Unicode line separator.
-/

namespace ChatPanel.Text

/-- Puts a character at the front of the first line. -/
def consLine (c : Char) : List (List Char) → List (List Char)
  | [] => [[c]]
  | line :: rest => (c :: line) :: rest

/-- The lines of a list of characters. -/
def linesOf : List Char → List (List Char)
  | [] => [[]]
  | '\r' :: '\n' :: rest => [] :: linesOf rest
  | '\r' :: rest => [] :: linesOf rest
  | '\n' :: rest => [] :: linesOf rest
  | c :: rest => consLine c (linesOf rest)

/-- The lines of a text. -/
def lines (text : String) : List String :=
  (linesOf text.toList).map String.ofList

end ChatPanel.Text
