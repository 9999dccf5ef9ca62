/-!
# Sets of characters as ranges of code points

A property of characters that a standard publishes as a table is kept here as a list of closed
ranges.  One lookup serves every table of the library.
-/

namespace ChatPanel.Text

/-- A set of characters, as closed ranges of code points in ascending order. -/
abbrev Ranges := List (Nat × Nat)

/-- Does the character lie in one of the ranges? -/
def Ranges.has (ranges : Ranges) (c : Char) : Bool :=
  ranges.any fun range => range.1 ≤ c.toNat && c.toNat ≤ range.2

end ChatPanel.Text
