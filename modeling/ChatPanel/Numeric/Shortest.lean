import ChatPanel.Numeric.Binary64

/-!
# The shortest decimal of a binary64 value

A value is written with the fewest digits that read back to it, and with the nearest of those.

* `Decimal` — digits and a power of ten.
* `Binary64.readsBack` — does a decimal lie among the numbers that round to the value?  They reach
  halfway to either neighbour, and the two ends belong to them exactly when the mantissa is even.
* `Binary64.shortest` — the first grid of one, two, … seventeen digits on which one of the value's
  two neighbours reads back.  Of two such neighbours the nearer is taken, and the even one when
  the value lies halfway.
* `Binary64.text` — the layout.  The first digit's power of ten decides: from `10 ^ -5` up to below
  `10 ^ 16` the value is written out with a point, and otherwise with a signed exponent.
-/

namespace ChatPanel

/-- The number `digits · 10 ^ power`. -/
structure Decimal where
  digits : Nat
  power : Int
  deriving DecidableEq, Repr

namespace Binary64

/-! ## Selecting the digits -/

/-- Compares `a · 10 ^ i` with `b · 2 ^ j`, without rounding. -/
def compareScaled (a : Nat) (i : Int) (b : Nat) (j : Int) : Ordering :=
  compare (a * Nat.pow 10 i.toNat * Nat.pow 2 (-j).toNat)
    (b * Nat.pow 2 j.toNat * Nat.pow 10 (-i).toNat)

/-- Is the neighbour below at half the distance of the one above?  So it is at a power of two,
except at the least one. -/
def narrowBelow (x : Binary64) : Bool :=
  x.mantissa = Nat.pow 2 52 && leastExponent < x.exponent

/-- Does the decimal round to the value? -/
def readsBack (x : Binary64) (d : Decimal) : Bool :=
  let low := if x.narrowBelow then 4 * x.mantissa - 1 else 4 * x.mantissa - 2
  let high := 4 * x.mantissa + 2
  let fromLow := compareScaled d.digits d.power low (x.exponent - 2)
  let fromHigh := compareScaled d.digits d.power high (x.exponent - 2)
  let ends := x.mantissa % 2 = 0
  (fromLow = .gt || (ends && fromLow = .eq)) && (fromHigh = .lt || (ends && fromHigh = .eq))

/-- The value as a quotient of natural numbers, in units of `10 ^ power`. -/
def ratio (x : Binary64) (power : Int) : Nat × Nat :=
  (x.mantissa * Nat.pow 2 x.exponent.toNat * Nat.pow 10 (-power).toNat,
   Nat.pow 2 (-x.exponent).toNat * Nat.pow 10 power.toNat)

/-- The power of ten of the first digit of a value that is not zero.  The binary order fixes it up
to one. -/
def decimalOrder (x : Binary64) : Int :=
  let binary : Int := x.mantissa.log2 + x.exponent
  let guess := binary * 30103 / 100000
  if compareScaled 1 (guess + 1) x.mantissa x.exponent = .gt then guess else guess + 1

/-- The decimal of `count` digits that reads back, if there is one. -/
def ofDigits (x : Binary64) (count : Nat) : Option Decimal :=
  let power := x.decimalOrder + 1 - count
  let (num, den) := x.ratio power
  let below : Decimal := ⟨num / den, power⟩
  let above : Decimal := ⟨num / den + 1, power⟩
  match x.readsBack below, x.readsBack above with
  | true, true => if roundQuotient num den = num / den then some below else some above
  | true, false => some below
  | false, true => some above
  | false, false => none

/-- The digits that seventeen places always find; the exact value otherwise. -/
def shortest (x : Binary64) : Decimal :=
  match (List.range' 1 17).findSome? x.ofDigits with
  | some d => d
  | none => ⟨(x.ratio (min x.exponent 0)).1, min x.exponent 0⟩

/-! ## Layout -/

/-- The digits without the zeros at their end, and how many zeros there were. -/
def splitZeros (digits : List Char) : List Char × Nat :=
  let kept := (digits.reverse.dropWhile (· = '0')).reverse
  (kept, digits.length - kept.length)

/-- A row of zeros. -/
def zeros (count : Nat) : List Char :=
  List.replicate count '0'

/-- The digits written out around the point, for a first digit at `10 ^ order`. -/
def plain (digits : List Char) (order : Int) : List Char :=
  let whole := (order + 1).toNat
  if order < 0 then '0' :: '.' :: zeros (-order - 1).toNat ++ digits
  else if digits.length ≤ whole then digits ++ zeros (whole - digits.length) ++ ['.', '0']
  else digits.take whole ++ '.' :: digits.drop whole

/-- The digits with a point after the first and a signed exponent, for a first digit at
`10 ^ order`. -/
def scientific (digits : List Char) (order : Int) : List Char :=
  let fraction := if 1 < digits.length then '.' :: digits.drop 1 else []
  let sign := if order < 0 then '-' else '+'
  digits.take 1 ++ fraction ++ 'e' :: sign :: Nat.toDigits 10 order.natAbs

/-- The shortest text that reads back to the value.  Zero is written `0.0`. -/
def text (x : Binary64) : String :=
  if x.mantissa = 0 then "0.0" else
  let d := x.shortest
  let (digits, dropped) := splitZeros (Nat.toDigits 10 d.digits)
  let order : Int := d.power + dropped + digits.length - 1
  String.ofList (if -5 ≤ order ∧ order < 16 then plain digits order else scientific digits order)

end Binary64

end ChatPanel
