import ChatPanel.Json.Numeral
import ChatPanel.Proofs.Numeric.Binary64

/-!
# Which numerals are numbers

The reader takes the digits of a numeral into a significand of 64 bits and an exponent of 32, and
leaves out what does not fit.  What the numeral stands for is stated here without the reader, by all of
its digits.

* `Numeral.magnitude` — the absolute value of the number that is written.
* `Numeral.significand_mul_le` — what the reader takes of it is no more than that.
* **`Numeral.isOk_value_of_inRange`** — a numeral in range is a number.  Up to `10 ^ 308` all are in
  range whose exponent is below `2 ^ 31` (`Numeral.inRange_of_le`).

**Near the greatest value** no bound decides.  One and the same number is read if it is written
`1.79769313486231570e308`, and not if it is written with 309 digits.  And the bound of the range cannot
be the greatest value itself (`Numeral.isOk_value_nearGreatest`).
-/

namespace ChatPanel.Json

/-! ## Digits -/

/-- The natural number that digits stand for, behind a number that was read before. -/
def decimal (number : ℕ) (digits : List Char) : ℕ :=
  digits.foldl (fun number d => number * 10 + digitValue d) number

@[simp] lemma decimal_nil (number : ℕ) : decimal number [] = number :=
  List.foldl_nil

@[simp] lemma decimal_cons (number : ℕ) (d : Char) (digits : List Char) :
    decimal number (d :: digits) = decimal (number * 10 + digitValue d) digits :=
  List.foldl_cons ..

lemma decimal_append (number : ℕ) (digits digits' : List Char) :
    decimal number (digits ++ digits') = decimal (decimal number digits) digits' :=
  List.foldl_append

/-- Every further digit makes a number ten times as large, and more. -/
lemma mul_pow_le_decimal (number : ℕ) (digits : List Char) :
    number * 10 ^ digits.length ≤ decimal number digits := by
  induction digits generalizing number with
  | nil => simp
  | cons d digits ih =>
      calc number * 10 ^ (digits.length + 1) = number * 10 * 10 ^ digits.length := by ring
        _ ≤ (number * 10 + digitValue d) * 10 ^ digits.length :=
          Nat.mul_le_mul_right _ (Nat.le_add_right _ _)
        _ ≤ decimal (number * 10 + digitValue d) digits := ih _
        _ = decimal number (d :: digits) := (decimal_cons number d digits).symm

/-- What is gathered of some digits, and what is left of them. -/
structure Gathers (bound number : ℕ) (digits : List Char) (result : ℕ) (left : List Char) : Prop where
  exists_taken : ∃ taken, digits = taken ++ left ∧ result = decimal number taken
  le_bound : number ≤ bound → result ≤ bound
  full : ∀ d rest, left = d :: rest → bound < result * 10 + digitValue d

lemma gathers_gather (bound number : ℕ) (digits : List Char) :
    Gathers bound number digits (gather bound number digits).1 (gather bound number digits).2 := by
  fun_induction gather bound number digits with
  | case1 number => exact ⟨⟨[], rfl, (decimal_nil number).symm⟩, id, by simp⟩
  | case2 number d digits longer hle ih =>
      obtain ⟨taken, hdigits, hresult⟩ := ih.exists_taken
      refine ⟨⟨d :: taken, ?_, ?_⟩, fun _ => ih.le_bound hle, ih.full⟩
      · rw [List.cons_append, ← hdigits]
      · rw [hresult, decimal_cons]
  | case3 number d digits longer hnot =>
      refine ⟨⟨[], rfl, (decimal_nil number).symm⟩, id, ?_⟩
      rintro _ _ ⟨⟩
      exact Nat.not_le.mp hnot

/-- If nothing is left, all digits were gathered. -/
lemma Gathers.eq_decimal {bound number result : ℕ} {digits : List Char}
    (h : Gathers bound number digits result []) : result = decimal number digits := by
  obtain ⟨taken, rfl, hresult⟩ := h.exists_taken
  rw [hresult, List.append_nil]

/-- If something is left, the digits stand for more than the bound. -/
lemma Gathers.lt_decimal {bound number result : ℕ} {digits rest : List Char} {d : Char}
    (h : Gathers bound number digits result (d :: rest)) : bound < decimal number digits := by
  obtain ⟨taken, rfl, hresult⟩ := h.exists_taken
  rw [decimal_append, ← hresult, decimal_cons]
  calc bound < result * 10 + digitValue d := h.full d rest rfl
    _ ≤ (result * 10 + digitValue d) * 10 ^ rest.length :=
      Nat.le_mul_of_pos_right _ (Nat.pow_pos (by norm_num))
    _ ≤ decimal (result * 10 + digitValue d) rest := mul_pow_le_decimal _ _

/-! ## The number that is written -/

/-- The exponent that is written, with all its digits. -/
def Numeral.writtenPower (n : Numeral) : ℤ :=
  match n.exponent with
  | none => 0
  | some (negative, digits) => if negative then -decimal 0 digits else decimal 0 digits

/-- The absolute value of the number that is written. -/
def Numeral.magnitude (n : Numeral) : ℚ :=
  decimal 0 (n.whole ++ n.fraction.getD []) * 10 ^ (n.writtenPower - (n.fraction.getD []).length)

/-! ## The significand -/

/-- What is gathered on both sides of the point stands for no more than all the digits do.  If a whole
digit is left out, a fraction digit may take its place, but only a smaller one. -/
lemma mul_pow_le_decimal_of_gathers {bound number number' : ℕ} {whole left digits unread : List Char}
    (h : Gathers bound 0 whole number left) (h' : Gathers bound number digits number' unread) :
    number' * 10 ^ (left.length + unread.length) ≤ decimal 0 (whole ++ digits) := by
  obtain ⟨taken, rfl, hnumber⟩ := h.exists_taken
  obtain ⟨taken', rfl, hnumber'⟩ := h'.exists_taken
  rw [decimal_append, decimal_append, decimal_append, ← hnumber]
  have hread : number' * 10 ^ left.length ≤ decimal (decimal number left) taken' := by
    match left, taken' with
    | [], taken' => simp [hnumber']
    | d :: left, [] =>
        rw [hnumber']
        exact mul_pow_le_decimal number (d :: left)
    | d :: left, d' :: taken' =>
        have hlt : number' < number * 10 + digitValue d :=
          (h'.le_bound (h.le_bound (Nat.zero_le bound))).trans_lt (h.full d left rfl)
        calc number' * 10 ^ (left.length + 1) = number' * 10 ^ left.length * 10 := by ring
          _ ≤ (number * 10 + digitValue d) * 10 ^ left.length * 10 := by gcongr
          _ ≤ decimal (number * 10 + digitValue d) left * 10 ^ (taken'.length + 1) :=
            Nat.mul_le_mul (mul_pow_le_decimal _ _) (Nat.le_self_pow (by omega) 10)
          _ = decimal number (d :: left) * 10 ^ (d' :: taken').length := by
            rw [decimal_cons, List.length_cons]
          _ ≤ decimal (decimal number (d :: left)) (d' :: taken') := mul_pow_le_decimal _ _
  calc number' * 10 ^ (left.length + unread.length)
      = number' * 10 ^ left.length * 10 ^ unread.length := by ring
    _ ≤ decimal (decimal number left) taken' * 10 ^ unread.length := Nat.mul_le_mul_right _ hread
    _ ≤ decimal (decimal (decimal number left) taken') unread := mul_pow_le_decimal _ _

lemma Numeral.significand_lt (n : Numeral) : n.significand.1 < 2 ^ 64 := by
  have hwhole := gathers_gather greatestSignificand 0 n.whole
  have hfraction := gathers_gather greatestSignificand (gather greatestSignificand 0 n.whole).1
    (n.fraction.getD [])
  have hle := hfraction.le_bound (hwhole.le_bound (Nat.zero_le _))
  exact Nat.lt_of_le_of_lt hle (by decide)

/-- The significand, scaled, stands for no more than the digits. -/
lemma Numeral.significand_mul_le (n : Numeral) (power : ℤ) :
    (n.significand.1 : ℚ) * 10 ^ (n.significand.2 + power) ≤
      decimal 0 (n.whole ++ n.fraction.getD []) * 10 ^ (power - (n.fraction.getD []).length) := by
  have hwhole := gathers_gather greatestSignificand 0 n.whole
  have hfraction := gathers_gather greatestSignificand (gather greatestSignificand 0 n.whole).1
    (n.fraction.getD [])
  have hle := mul_pow_le_decimal_of_gathers hwhole hfraction
  obtain ⟨taken, hdigits, -⟩ := hfraction.exists_taken
  have hlength := congrArg List.length hdigits
  rw [List.length_append] at hlength
  simp only [significand]
  generalize (gather greatestSignificand 0 n.whole).2 = left at *
  generalize gather greatestSignificand (gather greatestSignificand 0 n.whole).1
    (n.fraction.getD []) = gathered at *
  generalize n.fraction.getD [] = digits at *
  have hpower : (left.length : ℤ) - (digits.length - gathered.2.length : ℕ) + power =
      (left.length + gathered.2.length : ℕ) + (power - digits.length) := by omega
  have hle' : (gathered.1 * 10 ^ (left.length + gathered.2.length) : ℚ) ≤
      decimal 0 (n.whole ++ digits) := by exact_mod_cast hle
  rw [hpower, zpow_add₀ (by norm_num), zpow_natCast, ← mul_assoc]
  gcongr

/-! ## Numerals in range -/

/-- The exponent that is read is the one that is written, if that fits. -/
lemma Numeral.power_eq {n : Numeral} (h : n.unreadExponent = none) : n.power = n.writtenPower := by
  rw [power, writtenPower]
  rw [unreadExponent] at h
  cases hexponent : n.exponent with
  | none => rfl
  | some exponent =>
      obtain ⟨negative, digits⟩ := exponent
      have hgathers := gathers_gather greatestExponent 0 digits
      simp only [hexponent] at h ⊢
      generalize gather greatestExponent 0 digits = gathered at *
      match gathered with
      | (number, []) => rw [hgathers.eq_decimal]

/-- An exponent that does not fit is large, or a minus sign stands in front of it. -/
lemma Numeral.le_writtenPower {n : Numeral} {unread : List Char}
    (h : n.unreadExponent = some unread) (hsign : n.shrinks = false) : 2 ^ 31 ≤ n.writtenPower := by
  rw [writtenPower]
  rw [unreadExponent] at h
  rw [shrinks] at hsign
  cases hexponent : n.exponent with
  | none => simp [hexponent] at h
  | some exponent =>
      obtain ⟨negative, digits⟩ := exponent
      have hgathers := gathers_gather greatestExponent 0 digits
      simp only [hexponent, Option.any_some] at h hsign ⊢
      generalize gather greatestExponent 0 digits = gathered at *
      match gathered with
      | (number, d :: rest) =>
          have hlt : greatestExponent < decimal 0 digits := hgathers.lt_decimal
          have hle : 2 ^ 31 ≤ decimal 0 digits := hlt
          rw [hsign, if_neg Bool.false_ne_true]
          exact_mod_cast hle

/-- The number that is written is no greater than the third greatest binary64 value, and if it is not
zero, its exponent is below `2 ^ 31`. -/
structure Numeral.InRange (n : Numeral) : Prop where
  magnitude_le : n.magnitude ≤ (2 ^ 53 - 3) * 2 ^ 971
  writtenPower_lt : n.magnitude ≠ 0 → n.writtenPower < 2 ^ 31

lemma Numeral.inRange_of_le {n : Numeral} {k : ℕ} (hk : k ≤ 308) (h : n.magnitude ≤ 10 ^ k)
    (hpower : n.writtenPower < 2 ^ 31) : n.InRange where
  magnitude_le := by
    rw [← Binary64.toRat_thirdGreatest]
    calc n.magnitude ≤ 10 ^ k := h
      _ ≤ 10 ^ Binary64.greatestPower := pow_le_pow_right₀ (by norm_num) hk
      _ ≤ Binary64.thirdGreatest.toRat := Binary64.ten_pow_lt_thirdGreatest.le
  writtenPower_lt _ := hpower

/-- A number that is zero has a significand that is. -/
lemma Numeral.significand_eq_zero {n : Numeral} (h : n.magnitude = 0) : n.significand.1 = 0 := by
  have hle := n.significand_mul_le n.writtenPower
  rw [← magnitude, h] at hle
  by_contra hne
  have hpos : (0 : ℚ) < n.significand.1 := by exact_mod_cast Nat.pos_of_ne_zero hne
  have hproduct : (0 : ℚ) < n.significand.1 * 10 ^ (n.significand.2 + n.writtenPower) := by
    positivity
  linarith

/-- **A numeral in range is a number.** -/
theorem Numeral.isOk_value_of_inRange {n : Numeral} (h : n.InRange) : n.value.isOk = true := by
  have hzero (hmagnitude : n.magnitude = 0) := significand_eq_zero hmagnitude
  have hscaled := n.significand_mul_le n.power
  have hlt := n.significand_lt
  rw [value]
  split
  · rfl
  split
  next number shift hsignificand =>
  rw [hsignificand] at hzero hscaled hlt
  split
  · next unread hunread =>
    rw [if_pos]
    · rfl
    -- an exponent that does not fit is harmless where it shrinks, and elsewhere only zero has one
    by_cases hshrinks : n.shrinks = true
    · exact .inr hshrinks
    · have hlarge := le_writtenPower hunread (by simpa using hshrinks)
      refine .inl (hzero (by_contra fun hne => ?_))
      exact absurd (h.writtenPower_lt hne) (not_lt.mpr hlarge)
  · next hunread =>
    rw [power_eq hunread] at hscaled ⊢
    have hle := h.magnitude_le
    rw [← Binary64.toRat_thirdGreatest] at hle
    obtain ⟨x, hx⟩ := Binary64.exists_ofDecimal_eq_some hlt (hscaled.trans hle)
    rw [hx]
    rfl

/-! ## Next to the greatest value -/

/-- The numeral `1.797693134862315708e308`. -/
def Numeral.nearGreatest : Numeral :=
  ⟨false, ['1'], some "797693134862315708".toList, some (false, ['3', '0', '8'])⟩

lemma Numeral.magnitude_nearGreatest :
    nearGreatest.magnitude = (1797693134862315708 : ℕ) * 10 ^ 290 := by
  have hdigits : decimal 0 ('1' :: "797693134862315708".toList) = 1797693134862315708 := by
    decide +kernel
  have hpower : nearGreatest.writtenPower - "797693134862315708".toList.length = (290 : ℕ) := by
    decide +kernel
  show (decimal 0 ('1' :: "797693134862315708".toList) : ℚ) *
    10 ^ (nearGreatest.writtenPower - "797693134862315708".toList.length) = _
  rw [hdigits, hpower, zpow_natCast]

/-- It is less than the greatest value. -/
lemma Numeral.magnitude_nearGreatest_lt : nearGreatest.magnitude < (2 ^ 53 - 1) * 2 ^ 971 := by
  have hlt : 1797693134862315708 * 10 ^ 290 < Binary64.greatest.mantissa * 2 ^ 971 := by
    decide +kernel
  rw [magnitude_nearGreatest, ← Binary64.toRat_greatest]
  exact (Binary64.mul_pow_lt_toRat_iff rfl).mpr hlt

/-- And it is no number. -/
lemma Numeral.isOk_value_nearGreatest : nearGreatest.value.isOk = false := by
  decide +kernel

end ChatPanel.Json
