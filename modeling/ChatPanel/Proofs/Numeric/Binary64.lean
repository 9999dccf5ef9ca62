import ChatPanel.Numeric.Binary64
import Mathlib.Algebra.Order.Field.Basic
import Mathlib.Algebra.Order.Field.Power
import Mathlib.Data.Rat.Cast.Order
import Mathlib.Tactic.FieldSimp
import Mathlib.Tactic.GCongr
import Mathlib.Tactic.Linarith
import Mathlib.Tactic.Ring

/-!
# How far a computed value is from the exact one

A binary64 value stands for a rational number (`toRat`), and what is computed is the exact quotient,
rounded once.  So the error is at most half a unit of the last place (`slack`), and a result is missing
only if the exact one is half a unit past the greatest value or more (`overflow`).

* `abs_toRat_sub_le` — the error of one rounding.
* `exists_ofRatio_eq_some` — a quotient below the overflow has a value.
* **`exists_ofDecimal_eq_some`** — so has a decimal up to the third greatest value.

**Two values short of the greatest.**  A decimal is not rounded once but three times: its digits, the
power of ten, and the product of the two.  Near the greatest value it then depends on the way a number
is written whether it is read.
-/

namespace ChatPanel.Binary64

/-- The rational number that a value stands for. -/
def toRat (x : Binary64) : ℚ :=
  x.mantissa * 2 ^ x.exponent

/-! ## Powers of two -/

lemma two_zpow_eq (e : ℤ) : (2 : ℚ) ^ e = 2 ^ e.toNat / 2 ^ (-e).toNat := by
  rw [← zpow_natCast, ← zpow_natCast, ← zpow_sub₀ (by norm_num)]
  congr 1
  omega

/-- The quotient of two numbers in units of `2 ^ e`. -/
lemma ratio_scaled (num den : ℕ) (e : ℤ) :
    ((num * Nat.pow 2 (-e).toNat : ℕ) : ℚ) / (den * Nat.pow 2 e.toNat : ℕ) =
      num / den / 2 ^ e := by
  rw [two_zpow_eq]
  push_cast [Nat.pow_eq]
  field_simp

/-! ## Rounding a quotient -/

/-- Rounding a quotient moves it by half a unit at most. -/
lemma two_mul_roundQuotient_mul (num : ℕ) {den : ℕ} (hden : 0 < den) :
    2 * num ≤ 2 * (roundQuotient num den * den) + den ∧
      2 * (roundQuotient num den * den) ≤ 2 * num + den := by
  have hdiv : num / den * den + num % den = num := Nat.div_add_mod' num den
  have hlt : num % den < den := Nat.mod_lt num hden
  simp only [roundQuotient]
  split
  · omega
  · rw [Nat.add_mul]
    omega

lemma abs_roundQuotient_sub_le (num : ℕ) {den : ℕ} (hden : 0 < den) :
    |(roundQuotient num den : ℚ) - num / den| ≤ 1 / 2 := by
  obtain ⟨hlower, hupper⟩ := two_mul_roundQuotient_mul num hden
  have hden' : (0 : ℚ) < den := by exact_mod_cast hden
  have hlower' : (2 * num : ℚ) ≤ 2 * (roundQuotient num den * den) + den := by
    exact_mod_cast hlower
  have hupper' : (2 * (roundQuotient num den * den) : ℚ) ≤ 2 * num + den := by
    exact_mod_cast hupper
  rw [abs_le]
  constructor
  · rw [neg_le_sub_iff_le_add, div_le_iff₀ hden']
    linarith
  · rw [sub_le_comm, le_div_iff₀ hden']
    linarith

/-- The binary order of a quotient is no overestimate. -/
lemma two_zpow_binaryOrder_le {num den : ℕ} (hnum : num ≠ 0) (hden : 0 < den) :
    (2 : ℚ) ^ binaryOrder num den ≤ num / den := by
  have hden' : (0 : ℚ) < den := by exact_mod_cast hden
  simp only [binaryOrder]
  split
  · -- by the logarithms alone, the quotient is above half of the guess
    have hlow : (2 : ℚ) ^ num.log2 ≤ num := by exact_mod_cast Nat.log2_self_le hnum
    have hhigh : (den : ℚ) ≤ 2 ^ (den.log2 + 1) := by exact_mod_cast Nat.lt_log2_self.le
    have hsplit : (num.log2 : ℤ) - den.log2 - 1 = (num.log2 : ℤ) - (den.log2 + 1 : ℕ) := by
      push_cast
      ring
    rw [hsplit, zpow_sub₀ (by norm_num), zpow_natCast, zpow_natCast]
    gcongr
  · next hnot =>
    rw [two_zpow_eq, div_le_div_iff₀ (by positivity) hden']
    have hle := Nat.not_lt.mp hnot
    rw [Nat.pow_eq, Nat.pow_eq] at hle
    have hle' : (den * 2 ^ ((num.log2 : ℤ) - den.log2).toNat : ℚ) ≤
        num * 2 ^ (-((num.log2 : ℤ) - den.log2)).toNat := by exact_mod_cast hle
    linarith

/-! ## One rounding -/

/-- The exponent of the unit in which a quotient is rounded. -/
def unitExponent (num den : ℕ) : ℤ :=
  max (binaryOrder num den - 52) leastExponent

/-- The rounded quotient, which may lie past the largest value. -/
def rounded (num den : ℕ) : Binary64 :=
  let e := unitExponent num den
  let m := roundQuotient (num * Nat.pow 2 (-e).toNat) (den * Nat.pow 2 e.toNat)
  if m = Nat.pow 2 53 then ⟨Nat.pow 2 52, e + 1⟩ else ⟨m, e⟩

lemma ofRatio_of_ne_zero {num : ℕ} (h : num ≠ 0) (den : ℕ) :
    ofRatio num den =
      if greatestExponent < (rounded num den).exponent then none else some (rounded num den) :=
  if_neg h

/-- A carry into one more digit changes the unit, and not the value. -/
lemma toRat_rounded (num den : ℕ) :
    (rounded num den).toRat =
      roundQuotient (num * Nat.pow 2 (-unitExponent num den).toNat)
        (den * Nat.pow 2 (unitExponent num den).toNat) * 2 ^ unitExponent num den := by
  simp only [rounded]
  split
  · next hcarry =>
    rw [hcarry, toRat, zpow_add₀ (by norm_num)]
    norm_num
    ring
  · rfl

/-- What one rounding may add to or take from a value: a relative part, and below the least exponent
an absolute one. -/
def slack (q : ℚ) : ℚ :=
  max (q / 2 ^ 53) (2 ^ (leastExponent - 1))

lemma half_unit_le_slack {num den : ℕ} (hnum : num ≠ 0) (hden : 0 < den) :
    (2 : ℚ) ^ unitExponent num den / 2 ≤ slack (num / den) := by
  rw [unitExponent, slack]
  rcases le_total (binaryOrder num den - 52) leastExponent with hle | hle
  · rw [max_eq_right hle]
    exact le_max_of_le_right (by rw [zpow_sub₀ (by norm_num), zpow_one])
  · rw [max_eq_left hle, zpow_sub₀ (by norm_num)]
    apply le_max_of_le_left
    have horder := two_zpow_binaryOrder_le hnum hden
    norm_num at horder ⊢
    linarith

/-- The rounded quotient is half a unit at most from the exact one. -/
lemma abs_toRat_rounded_sub_le (num : ℕ) {den : ℕ} (hden : 0 < den) :
    |(rounded num den).toRat - num / den| ≤ 2 ^ unitExponent num den / 2 := by
  have hpos : 0 < den * Nat.pow 2 (unitExponent num den).toNat :=
    Nat.mul_pos hden (Nat.pow_pos (by norm_num))
  have hround := abs_roundQuotient_sub_le (num * Nat.pow 2 (-unitExponent num den).toNat) hpos
  rw [ratio_scaled] at hround
  have hunit : (0 : ℚ) < 2 ^ unitExponent num den := by positivity
  calc |(rounded num den).toRat - num / den|
      = |(roundQuotient (num * Nat.pow 2 (-unitExponent num den).toNat)
          (den * Nat.pow 2 (unitExponent num den).toNat) : ℚ) - num / den / 2 ^ unitExponent num den|
          * 2 ^ unitExponent num den := by
        rw [toRat_rounded, ← abs_of_pos hunit, ← abs_mul, abs_of_pos hunit, sub_mul,
          div_mul_cancel₀ _ hunit.ne']
    _ ≤ 1 / 2 * 2 ^ unitExponent num den := by gcongr
    _ = 2 ^ unitExponent num den / 2 := by ring

/-- The result of a rounding is near the exact quotient. -/
lemma abs_toRat_sub_le {num den : ℕ} (hden : 0 < den) {x : Binary64}
    (h : ofRatio num den = some x) : |x.toRat - num / den| ≤ slack (num / den) := by
  by_cases hnum : num = 0
  · subst hnum
    obtain rfl : ⟨0, leastExponent⟩ = x := Option.some.inj h
    simp [toRat, slack]
  · rw [ofRatio_of_ne_zero hnum] at h
    split at h
    · cases h
    · obtain rfl := Option.some.inj h
      exact (abs_toRat_rounded_sub_le num hden).trans (half_unit_le_slack hnum hden)

/-- From here on a quotient is rounded past the greatest value, which is half a unit below. -/
def overflow : ℚ :=
  (2 ^ 53 - 1 / 2) * 2 ^ greatestExponent

lemma binaryOrder_le {num den : ℕ} (hnum : num ≠ 0) (hden : 0 < den)
    (h : (num / den : ℚ) < overflow) : binaryOrder num den - 52 ≤ greatestExponent := by
  by_contra hnot
  have hpow : (2 : ℚ) ^ (53 + greatestExponent) ≤ 2 ^ binaryOrder num den :=
    zpow_le_zpow_right₀ (by norm_num) (by omega)
  rw [zpow_add₀ (by norm_num)] at hpow
  have horder := two_zpow_binaryOrder_le hnum hden
  have hunit : (0 : ℚ) < 2 ^ greatestExponent := by positivity
  norm_num [overflow] at h hpow
  linarith

/-- **A quotient below the overflow has a value.**  Only a carry at the greatest exponent would leave
the range, and that is half a unit too far. -/
lemma exists_ofRatio_eq_some {num den : ℕ} (hden : 0 < den) (h : (num / den : ℚ) < overflow) :
    ∃ x, ofRatio num den = some x := by
  by_cases hnum : num = 0
  · exact ⟨_, if_pos hnum⟩
  have hunit : unitExponent num den ≤ greatestExponent :=
    max_le (binaryOrder_le hnum hden h) (by decide)
  refine ⟨rounded num den, ?_⟩
  rw [ofRatio_of_ne_zero hnum, if_neg]
  have hnear := (abs_le.mp (abs_toRat_rounded_sub_le num hden)).2
  simp only [rounded]
  split
  · next hcarry =>
    intro hlt
    have hlast : unitExponent num den = greatestExponent := by
      have hlt' : greatestExponent < unitExponent num den + 1 := hlt
      omega
    rw [toRat_rounded, hcarry, hlast] at hnear
    norm_num [overflow] at hnear h
    linarith
  · exact not_lt.mpr hunit

/-! ## Arithmetic -/

lemma toRat_nonneg (x : Binary64) : 0 ≤ x.toRat := by
  rw [toRat]
  positivity

/-- A natural number is rounded by a relative part only. -/
lemma abs_toRat_ofNat_sub_le {n : ℕ} {x : Binary64} (h : ofNat n = some x) :
    |x.toRat - n| ≤ n / 2 ^ 53 := by
  have hnear := abs_toRat_sub_le Nat.one_pos h
  rw [Nat.cast_one, div_one] at hnear
  rcases Nat.eq_zero_or_pos n with rfl | hpos
  · obtain rfl : ⟨0, leastExponent⟩ = x := Option.some.inj h
    simp [toRat]
  · refine hnear.trans (max_le le_rfl ?_)
    have hone : (1 : ℚ) ≤ n := by exact_mod_cast hpos
    have htiny : (2 : ℚ) ^ (leastExponent - 1) ≤ 2 ^ (-53 : ℤ) :=
      zpow_le_zpow_right₀ (by norm_num) (by decide)
    calc (2 : ℚ) ^ (leastExponent - 1) ≤ 2 ^ (-53 : ℤ) := htiny
      _ = 1 / 2 ^ 53 := by norm_num
      _ ≤ n / 2 ^ 53 := by gcongr

lemma ratio_mul (x y : Binary64) :
    ((x.mantissa * y.mantissa * Nat.pow 2 (x.exponent + y.exponent).toNat : ℕ) : ℚ) /
        (Nat.pow 2 (-(x.exponent + y.exponent)).toNat : ℕ) = x.toRat * y.toRat := by
  have hsum : (2 : ℚ) ^ x.exponent * 2 ^ y.exponent = 2 ^ (x.exponent + y.exponent) :=
    (zpow_add₀ (by norm_num) _ _).symm
  rw [toRat, toRat, mul_mul_mul_comm, hsum, two_zpow_eq]
  push_cast [Nat.pow_eq]
  ring

lemma ratio_div (x y : Binary64) :
    ((x.mantissa * Nat.pow 2 (x.exponent - y.exponent).toNat : ℕ) : ℚ) /
        (y.mantissa * Nat.pow 2 (-(x.exponent - y.exponent)).toNat : ℕ) = x.toRat / y.toRat := by
  have hdiff : (2 : ℚ) ^ x.exponent / 2 ^ y.exponent = 2 ^ (x.exponent - y.exponent) :=
    (zpow_sub₀ (by norm_num) _ _).symm
  rw [toRat, toRat, mul_div_mul_comm, hdiff, two_zpow_eq]
  push_cast [Nat.pow_eq]
  rw [div_mul_div_comm]

/-- A product below the overflow has a value. -/
lemma exists_mul_eq_some {x y : Binary64} (h : x.toRat * y.toRat < overflow) :
    ∃ z, x.mul y = some z := by
  rw [← ratio_mul] at h
  exact exists_ofRatio_eq_some (Nat.pow_pos (by norm_num)) h

/-- A quotient below the overflow has a value, and that is near it. -/
lemma exists_div_eq_some {x y : Binary64} (hy : 0 < y.toRat) (h : x.toRat / y.toRat < overflow) :
    ∃ z, x.div y = some z ∧ |z.toRat - x.toRat / y.toRat| ≤ slack (x.toRat / y.toRat) := by
  have hmantissa : 0 < y.mantissa := by
    refine Nat.pos_of_ne_zero fun hzero => ?_
    simp [toRat, hzero] at hy
  rw [← ratio_div] at h
  have hden : 0 < y.mantissa * Nat.pow 2 (-(x.exponent - y.exponent)).toNat :=
    Nat.mul_pos hmantissa (Nat.pow_pos (by norm_num))
  obtain ⟨z, hz⟩ := exists_ofRatio_eq_some hden h
  refine ⟨z, hz, ?_⟩
  rw [← ratio_div]
  exact abs_toRat_sub_le hden hz

/-! ## The greatest values -/

/-- The greatest finite value. -/
def greatest : Binary64 := ⟨2 ^ 53 - 1, 971⟩

/-- The third of the finite values, counted from the greatest. -/
def thirdGreatest : Binary64 := ⟨2 ^ 53 - 3, 971⟩

/-- What the next value would be, if there were one. -/
def pastGreatest : Binary64 := ⟨2 ^ 53, 971⟩

lemma toRat_greatest : greatest.toRat = (2 ^ 53 - 1) * 2 ^ 971 := by
  have hmantissa : ((2 ^ 53 - 1 : ℕ) : ℚ) = 2 ^ 53 - 1 := by norm_num
  exact congrArg₂ (· * ·) hmantissa (zpow_natCast 2 971)

lemma toRat_thirdGreatest : thirdGreatest.toRat = (2 ^ 53 - 3) * 2 ^ 971 := by
  have hmantissa : ((2 ^ 53 - 3 : ℕ) : ℚ) = 2 ^ 53 - 3 := by norm_num
  exact congrArg₂ (· * ·) hmantissa (zpow_natCast 2 971)

/-- A decimal is compared with a large value among the natural numbers. -/
lemma mul_pow_lt_toRat_iff {x : Binary64} {digits k e : ℕ} (he : x.exponent = e) :
    (digits * 10 ^ k : ℚ) < x.toRat ↔ digits * 10 ^ k < x.mantissa * 2 ^ e := by
  rw [toRat, he, zpow_natCast]
  norm_cast

lemma ten_pow_lt_thirdGreatest : (10 : ℚ) ^ greatestPower < thirdGreatest.toRat := by
  have hlt : 1 * 10 ^ greatestPower < thirdGreatest.mantissa * 2 ^ 971 := by decide +kernel
  have hlt' := (mul_pow_lt_toRat_iff rfl).mpr hlt
  rwa [Nat.cast_one, one_mul] at hlt'

/-- Two roundings of a number up to here stay below the overflow. -/
lemma thirdGreatest_mul_lt_overflow :
    thirdGreatest.toRat * (1 + 1 / 2 ^ 53) ^ 2 < overflow := by
  have hunit : (0 : ℚ) < 2 ^ (971 : ℤ) := by positivity
  have hmantissa : (thirdGreatest.mantissa : ℚ) * (1 + 1 / 2 ^ 53) ^ 2 < 2 ^ 53 - 1 / 2 := by
    norm_num [thirdGreatest]
  calc thirdGreatest.toRat * (1 + 1 / 2 ^ 53) ^ 2
      = thirdGreatest.mantissa * (1 + 1 / 2 ^ 53) ^ 2 * 2 ^ (971 : ℤ) := mul_right_comm _ _ _
    _ < (2 ^ 53 - 1 / 2) * 2 ^ (971 : ℤ) := by gcongr

lemma thirdGreatest_lt_overflow : thirdGreatest.toRat < overflow :=
  (le_mul_of_one_le_right (toRat_nonneg _) (by norm_num)).trans_lt thirdGreatest_mul_lt_overflow

lemma overflow_lt_pastGreatest : overflow < pastGreatest.toRat := by
  have hunit : (0 : ℚ) < 2 ^ (971 : ℤ) := by positivity
  have hmantissa : (2 ^ 53 - 1 / 2 : ℚ) < pastGreatest.mantissa := by norm_num [pastGreatest]
  exact mul_lt_mul_of_pos_right hmantissa hunit

/-- The next power of ten is above the overflow. -/
lemma overflow_lt_ten_pow : overflow < (10 : ℚ) ^ (greatestPower + 1) := by
  have hnot : ¬ 1 * 10 ^ (greatestPower + 1) < pastGreatest.mantissa * 2 ^ 971 := by
    decide +kernel
  have hle := not_lt.mp (mt (mul_pow_lt_toRat_iff rfl).mp hnot)
  rw [Nat.cast_one, one_mul] at hle
  exact overflow_lt_pastGreatest.trans_le hle

/-! ## Scaling by a power of ten -/

/-- A power of ten in the range has a value near it. -/
lemma exists_ofNat_pow {k : ℕ} (hk : k ≤ greatestPower) :
    ∃ ten, ofNat (Nat.pow 10 k) = some ten ∧ |ten.toRat - 10 ^ k| ≤ 10 ^ k / 2 ^ 53 := by
  have hpow : (10 : ℚ) ^ k ≤ 10 ^ greatestPower := pow_le_pow_right₀ (by norm_num) hk
  have hlt : ((Nat.pow 10 k : ℕ) / (1 : ℕ) : ℚ) < overflow := by
    push_cast [Nat.pow_eq]
    linarith [ten_pow_lt_thirdGreatest, thirdGreatest_lt_overflow]
  obtain ⟨ten, hten⟩ := exists_ofRatio_eq_some Nat.one_pos hlt
  refine ⟨ten, hten, ?_⟩
  have hnear := abs_toRat_ofNat_sub_le hten
  push_cast [Nat.pow_eq] at hnear
  exact hnear

/-- A value times a power of ten is read in one multiplication. -/
lemma exists_scale_eq_some_of_nonneg {x : Binary64} {k : ℕ} (hk : k ≤ greatestPower)
    (h : x.toRat * (10 ^ k * (1 + 1 / 2 ^ 53)) < overflow) : ∃ y, x.scale k = some y := by
  obtain ⟨ten, hten, hnear⟩ := exists_ofNat_pow hk
  have hle : ten.toRat ≤ 10 ^ k * (1 + 1 / 2 ^ 53) := by
    have hupper := (abs_le.mp hnear).2
    linarith
  have hproduct : x.toRat * ten.toRat < overflow :=
    (mul_le_mul_of_nonneg_left hle x.toRat_nonneg).trans_lt h
  obtain ⟨y, hy⟩ := exists_mul_eq_some hproduct
  refine ⟨y, ?_⟩
  have hsign : ¬ (k : ℤ) < 0 := Int.not_lt.mpr (Int.natCast_nonneg k)
  rw [scale, Int.natAbs_natCast, if_pos hk, hten, Option.bind_eq_bind, Option.bind_some,
    if_neg hsign, hy]

/-- A small number, far below the overflow and far above every significand. -/
lemma two_pow_lt_overflow : (2 : ℚ) ^ 100 < overflow := by
  have hunit : (2 : ℚ) ^ (100 : ℤ) ≤ 2 ^ greatestExponent :=
    zpow_le_zpow_right₀ (by norm_num) (by decide)
  norm_num [overflow] at hunit ⊢
  linarith

lemma slack_le {q : ℚ} (hq : 0 ≤ q) : slack q ≤ max q 1 := by
  refine max_le_max (div_le_self hq (by norm_num)) ?_
  have hle : (2 : ℚ) ^ (leastExponent - 1) ≤ 2 ^ (0 : ℤ) :=
    zpow_le_zpow_right₀ (by norm_num) (by decide)
  simpa using hle

/-- Division by a power of ten makes no value too large. -/
lemma exists_div_pow_eq_some {x : Binary64} {k : ℕ} (hpos : 0 < k) (hk : k ≤ greatestPower)
    (hx : x.toRat ≤ 2 ^ 100) :
    ∃ ten y, ofNat (Nat.pow 10 k) = some ten ∧ x.div ten = some y ∧ y.toRat ≤ 2 ^ 100 := by
  obtain ⟨ten, hten, hnear⟩ := exists_ofNat_pow hk
  have hpow : (10 : ℚ) ≤ 10 ^ k := le_self_pow₀ (by norm_num) (by omega)
  have htwo : 2 ≤ ten.toRat := by
    have hlower := (abs_le.mp hnear).1
    linarith
  have hquotient : x.toRat / ten.toRat ≤ 2 ^ 100 / 2 :=
    div_le_div₀ (by positivity) hx (by norm_num) htwo
  have hnonneg : 0 ≤ x.toRat / ten.toRat := div_nonneg x.toRat_nonneg (by linarith)
  obtain ⟨y, hy, hnear'⟩ := exists_div_eq_some (x := x) (y := ten) (by linarith)
    (by linarith [two_pow_lt_overflow])
  refine ⟨ten, y, hten, hy, ?_⟩
  have hupper := (abs_le.mp hnear').2
  have hslack := (slack_le hnonneg).trans (max_le hquotient (by norm_num))
  linarith

/-- A value divided by powers of ten is always read. -/
lemma exists_scale_eq_some_of_neg {x : Binary64} {power : ℤ} (hneg : power < 0)
    (hx : x.toRat ≤ 2 ^ 100) : ∃ y, x.scale power = some y := by
  fun_induction scale x power with
  | case1 x power hin =>
      obtain ⟨ten, y, hten, hy, -⟩ := exists_div_pow_eq_some (by omega) hin hx
      exact ⟨y, by rw [hten, Option.bind_eq_bind, Option.bind_some, if_pos hneg, hy]⟩
  | case2 x => exact ⟨x, rfl⟩
  | case3 x power _ _ hpos => omega
  | case4 x power hout _ _ ih =>
      obtain ⟨ten, y, hten, hy, hle⟩ := exists_div_pow_eq_some (by decide) (le_refl greatestPower) hx
      obtain ⟨z, hz⟩ := ih y (by omega) hle
      refine ⟨z, ?_⟩
      rw [hten, Option.bind_eq_bind, Option.bind_some, hy, Option.bind_some, hz]

/-! ## Reading a decimal -/

lemma exists_ofNat_eq_some {n : ℕ} (h : n < 2 ^ 64) :
    ∃ x, ofNat n = some x ∧ x.toRat ≤ n * (1 + 1 / 2 ^ 53) := by
  have hlt : (n : ℚ) < 2 ^ 64 := by exact_mod_cast h
  have hratio : (n / (1 : ℕ) : ℚ) < overflow := by
    rw [Nat.cast_one, div_one]
    linarith [two_pow_lt_overflow]
  obtain ⟨x, hx⟩ := exists_ofRatio_eq_some Nat.one_pos hratio
  have hupper := (abs_le.mp (abs_toRat_ofNat_sub_le hx)).2
  exact ⟨x, hx, by linarith⟩

/-- Nothing but zero stays in the range times a power of ten past it. -/
lemma eq_zero_of_mul_pow_le {digits k : ℕ} (hk : greatestPower < k)
    (h : (digits : ℚ) * 10 ^ k ≤ thirdGreatest.toRat) : digits = 0 := by
  by_contra hne
  have hone : (1 : ℚ) ≤ digits := by exact_mod_cast Nat.one_le_iff_ne_zero.mpr hne
  have hlarge : thirdGreatest.toRat < digits * 10 ^ k :=
    calc thirdGreatest.toRat < overflow := thirdGreatest_lt_overflow
      _ < 10 ^ (greatestPower + 1) := overflow_lt_ten_pow
      _ ≤ 10 ^ k := pow_le_pow_right₀ (by norm_num) hk
      _ ≤ digits * 10 ^ k := le_mul_of_one_le_left (by positivity) hone
  exact absurd h (not_le.mpr hlarge)

/-- **A decimal is read if it is at most the third greatest value.**  Its digits, the power of ten and
their product are rounded one after another, and each rounding adds half a unit at most. -/
theorem exists_ofDecimal_eq_some {digits : ℕ} {power : ℤ} (hdigits : digits < 2 ^ 64)
    (h : (digits : ℚ) * 10 ^ power ≤ thirdGreatest.toRat) : ∃ x, ofDecimal digits power = some x := by
  obtain ⟨x, hx, hle⟩ := exists_ofNat_eq_some hdigits
  have hscale (hread : ∃ y, x.scale power = some y) : ∃ y, ofDecimal digits power = some y := by
    rwa [ofDecimal, hx]
  apply hscale
  rcases lt_or_ge power 0 with hneg | hpos
  · have hlt : (digits : ℚ) < 2 ^ 64 := by exact_mod_cast hdigits
    exact exists_scale_eq_some_of_neg hneg (by linarith)
  obtain ⟨k, rfl⟩ := Int.eq_ofNat_of_zero_le hpos
  rw [zpow_natCast] at h
  by_cases hk : k ≤ greatestPower
  · apply exists_scale_eq_some_of_nonneg hk
    calc x.toRat * (10 ^ k * (1 + 1 / 2 ^ 53))
        ≤ (digits : ℚ) * (1 + 1 / 2 ^ 53) * (10 ^ k * (1 + 1 / 2 ^ 53)) := by gcongr
      _ = (digits : ℚ) * 10 ^ k * (1 + 1 / 2 ^ 53) ^ 2 := by ring
      _ ≤ thirdGreatest.toRat * (1 + 1 / 2 ^ 53) ^ 2 := by gcongr
      _ < overflow := thirdGreatest_mul_lt_overflow
  · obtain rfl := eq_zero_of_mul_pow_le (by omega) h
    obtain rfl : ⟨0, leastExponent⟩ = x := Option.some.inj hx
    exact ⟨_, by rw [scale, Int.natAbs_natCast, if_neg hk, if_pos rfl]⟩

end ChatPanel.Binary64
