/-!
# Binary64 values, computed exactly

A finite non-negative binary64 value is `mantissa · 2 ^ exponent` with a mantissa below `2 ^ 53`.
An operation forms its exact result as a quotient of natural numbers and rounds once, to the
nearest value and to the even mantissa of two equally near ones.

* `Binary64.ofRatio` — the rounding itself.  A result past the largest finite value is `none`.
* `Binary64.mul`, `Binary64.div` — product and quotient, each rounded once.
* `Binary64.scale` — a value times a power of ten, in one multiplication or division while the
  power is itself a binary64 value, and in steps of `10 ^ 308` below that.

**Why the scaling is not rounded as a whole.**  A decimal is read as its digits, then scaled by the
rounded power of ten.  The two roundings can differ from one rounding of the exact decimal in the
last place, and what is written afterwards shows that place.
-/

namespace ChatPanel

/-- The value `mantissa · 2 ^ exponent`. -/
structure Binary64 where
  mantissa : Nat
  exponent : Int
  deriving DecidableEq, Repr

namespace Binary64

/-! ## Rounding -/

/-- The least exponent: below it the mantissa loses digits instead. -/
def leastExponent : Int := -1074

/-- The exponent of the largest finite values. -/
def greatestExponent : Int := 971

/-- The quotient `num / den` rounded to a natural number, a half to the even neighbour. -/
def roundQuotient (num den : Nat) : Nat :=
  let quotient := num / den
  let rest := 2 * (num % den)
  if rest < den ∨ (rest = den ∧ quotient % 2 = 0) then quotient else quotient + 1

/-- The greatest `e` with `2 ^ e ≤ num / den`, for a positive quotient. -/
def binaryOrder (num den : Nat) : Int :=
  let guess : Int := (num.log2 : Int) - den.log2
  if num * Nat.pow 2 (-guess).toNat < den * Nat.pow 2 guess.toNat then guess - 1 else guess

/-- The binary64 value nearest to `num / den`, or `none` past the largest one. -/
def ofRatio (num den : Nat) : Option Binary64 :=
  if num = 0 then some ⟨0, leastExponent⟩ else
  let e := max (binaryOrder num den - 52) leastExponent
  let m := roundQuotient (num * Nat.pow 2 (-e).toNat) (den * Nat.pow 2 e.toNat)
  let rounded : Binary64 := if m = Nat.pow 2 53 then ⟨Nat.pow 2 52, e + 1⟩ else ⟨m, e⟩
  if greatestExponent < rounded.exponent then none else some rounded

/-- The binary64 value nearest to a natural number. -/
def ofNat (n : Nat) : Option Binary64 :=
  ofRatio n 1

/-! ## Arithmetic -/

/-- The product, rounded once. -/
def mul (x y : Binary64) : Option Binary64 :=
  let e := x.exponent + y.exponent
  ofRatio (x.mantissa * y.mantissa * Nat.pow 2 e.toNat) (Nat.pow 2 (-e).toNat)

/-- The quotient by a positive value, rounded once. -/
def div (x y : Binary64) : Option Binary64 :=
  let e := x.exponent - y.exponent
  ofRatio (x.mantissa * Nat.pow 2 e.toNat) (y.mantissa * Nat.pow 2 (-e).toNat)

/-- The greatest power of ten below the largest finite value. -/
def greatestPower : Nat := 308

/-- The value times `10 ^ power`.  Zero stays zero at any power, and any other value leaves the
range at a power above `greatestPower`.  Far below it the value is divided in steps until it
vanishes. -/
def scale (x : Binary64) (power : Int) : Option Binary64 :=
  if power.natAbs ≤ greatestPower then do
    let ten ← ofNat (Nat.pow 10 power.natAbs)
    if power < 0 then x.div ten else x.mul ten
  else if x.mantissa = 0 then some x
  else if 0 < power then none
  else do
    let ten ← ofNat (Nat.pow 10 greatestPower)
    (← x.div ten).scale (power + greatestPower)
termination_by power.natAbs
decreasing_by simp only [greatestPower] at *; omega

/-- The value of a decimal: its digits as one natural number, scaled by a power of ten. -/
def ofDecimal (digits : Nat) (power : Int) : Option Binary64 := do
  (← ofNat digits).scale power

end Binary64

end ChatPanel
