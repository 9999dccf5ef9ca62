import ChatPanel.Numeric.Shortest

/-!
# The values of JSON numbers

A number that is written without a point and without an exponent is an integer if it fits 64 bits:
up to `2 ^ 64 - 1`, and down to `-2 ^ 63`.  Every other number is a binary64 value with a sign of
its own, so that `-0` keeps its sign.
-/

namespace ChatPanel.Json

/-- The value of a JSON number. -/
inductive Number where
  | integer (value : Int)
  | real (negative : Bool) (magnitude : Binary64)
  deriving DecidableEq, Repr

/-- How a diagnostic names the number. -/
def Number.describe : Number → String
  | .integer value => "integer `" ++ toString value ++ "`"
  | .real negative magnitude =>
    "floating point `" ++ (if negative then "-" else "") ++ magnitude.text ++ "`"

end ChatPanel.Json
