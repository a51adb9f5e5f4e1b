import CostJournal.Proofs.Decimal.Rounding
import Mathlib.Tactic.FieldSimp

/-!
# The range of decimals

Every operation that can overflow rounds its exact result, and does so exactly where the result is
`OutOfRange`: at least half a unit beyond every magnitude. That does not depend on the scale at which
rounding starts, as what does not fit without places does not fit with them
(`nearest?_eq_none`). Each operation then has one lemma about the value of its result.
-/

namespace CostJournal

theorem even_coefficientLimit : coefficientLimit % 2 = 0 := by decide

/-- No decimal is near the number: it is half a unit or more beyond the largest ones. -/
def OutOfRange (q : ℚ) : Prop := (coefficientLimit : ℚ) - 1 / 2 ≤ |q|

theorem OutOfRange.of_abs_le {q q' : ℚ} (h : OutOfRange q) (hle : |q| ≤ |q'|) : OutOfRange q' :=
  le_trans h hle

theorem not_outOfRange_of_abs_le {q : ℚ} {bound : Nat} (h : |q| ≤ bound) (hbound : bound < coefficientLimit) :
    ¬ OutOfRange q := by
  have hbound : (bound + 1 : ℚ) ≤ coefficientLimit := by exact_mod_cast hbound
  rw [OutOfRange, not_le]
  linarith

/-- What rounds beyond the magnitudes is out of range. -/
theorem coefficientLimit_le_roundInt {num : Int} {den : Nat} (hden : 0 < den) :
    coefficientLimit ≤ (roundInt num den).natAbs ↔ OutOfRange ((num : ℚ) / den) := by
  have hpos : (0 : ℚ) < den := Nat.cast_pos.mpr hden
  have hnum : |(num : ℚ)| = (num.natAbs : ℚ) := by rw [Nat.cast_natAbs, Int.cast_abs]
  rw [natAbs_roundInt, le_roundHalfEven_iff hden even_coefficientLimit, OutOfRange, abs_div, abs_of_pos hpos,
    le_div_iff₀ hpos, hnum, ← Nat.cast_le (α := ℚ)]
  push_cast
  constructor <;> intro h <;> linarith

namespace Decimal
variable {a b d : Decimal} {o : Overflow}

/-- The number that the decimal is. -/
def value (d : Decimal) : ℚ := d.coefficient / tenPow d.scale

theorem nearest?_eq_none {num : Int} {den scale : Nat} (hden : 0 < den) (h : scale ≤ maxScale) :
    nearest? num den scale h = none ↔ OutOfRange ((num : ℚ) / den) := by
  induction scale with
  | zero =>
    rw [nearest?, ← coefficientLimit_le_roundInt hden]
    simp
  | succ s ih =>
    rw [nearest?]
    by_cases hfits : (roundInt (num * tenPow (s + 1)) den).natAbs < coefficientLimit
    · rw [dif_pos hfits]
      refine iff_of_false (Option.some_ne_none _) fun hout => ?_
      -- with more places the coefficient is larger
      refine absurd ((coefficientLimit_le_roundInt hden).mpr (hout.of_abs_le ?_)) (Nat.not_le.mpr hfits)
      have hplaces : (1 : ℚ) ≤ |(tenPow (s + 1) : ℚ)| := by
        rw [Nat.abs_cast]
        exact_mod_cast tenPow_pos (s + 1)
      push_cast
      rw [abs_div, abs_div, abs_mul]
      exact div_le_div_of_nonneg_right (le_mul_of_one_le_right (abs_nonneg _) hplaces) (abs_nonneg _)
    · rw [dif_neg hfits]
      exact ih _

theorem tenPow_cast_pos (n : Nat) : (0 : ℚ) < tenPow n := Nat.cast_pos.mpr (tenPow_pos n)

theorem isZero_iff : d.isZero = true ↔ d.value = 0 := by
  rw [value, div_eq_zero_iff, or_iff_left (tenPow_cast_pos _).ne', Int.cast_eq_zero, ← Int.natAbs_eq_zero,
    natAbs_coefficient, isZero, beq_iff_eq]

theorem value_zero : zero.value = 0 := isZero_iff.mp rfl

theorem value_hundred : hundred.value = 100 := by
  simp [value, coefficient, hundred, tenPow]

theorem not_outOfRange_value (d : Decimal) : ¬ OutOfRange d.value := by
  have hround : (roundInt d.coefficient (tenPow d.scale)).natAbs < coefficientLimit :=
    Nat.lt_of_le_of_lt (natAbs_roundInt_le _ _ (tenPow_ne_zero _)) d.natAbs_coefficient_lt
  rw [value, ← coefficientLimit_le_roundInt (tenPow_pos _)]
  exact Nat.not_le.mpr hround

theorem value_add_value (a b : Decimal) : a.value + b.value =
    ((a.coefficient * tenPow b.scale + b.coefficient * tenPow a.scale : Int) : ℚ) /
      (tenPow (a.scale + b.scale) : Nat) := by
  have := (tenPow_cast_pos a.scale).ne'
  have := (tenPow_cast_pos b.scale).ne'
  rw [value, value, tenPow_add]
  push_cast
  field_simp

theorem value_mul_value (a b : Decimal) : a.value * b.value =
    ((a.coefficient * b.coefficient : Int) : ℚ) / (tenPow (a.scale + b.scale) : Nat) := by
  rw [value, value, div_mul_div_comm, tenPow_add]
  push_cast
  rfl

theorem coefficient_ne_zero (hb : ¬ b.isZero = true) : b.coefficient ≠ 0 := by
  rw [← Int.natAbs_ne_zero, natAbs_coefficient]
  simpa [isZero] using hb

theorem quotient_den_pos (hb : ¬ b.isZero = true) : 0 < b.coefficient.natAbs * tenPow a.scale :=
  Nat.mul_pos (Int.natAbs_pos.mpr (coefficient_ne_zero hb)) (tenPow_pos _)

/-- The sign of the divisor goes to the numerator. -/
theorem value_div_value (hb : ¬ b.isZero = true) : a.value / b.value =
    ((a.coefficient * tenPow b.scale * b.coefficient.sign : Int) : ℚ) /
      ((b.coefficient.natAbs * tenPow a.scale : Nat) : ℚ) := by
  have := (tenPow_cast_pos a.scale).ne'
  have := (tenPow_cast_pos b.scale).ne'
  have habs : ((b.coefficient.natAbs : Nat) : ℚ) = b.coefficient.sign * b.coefficient := by
    rw [← Int.cast_natCast, ← Int.cast_mul, Int.sign_mul_self_eq_natAbs]
  have hsign : (b.coefficient.sign : ℚ) ≠ 0 := by
    exact_mod_cast mt Int.sign_eq_zero_iff_zero.mp (coefficient_ne_zero hb)
  have hcast : (b.coefficient : ℚ) ≠ 0 := by exact_mod_cast coefficient_ne_zero hb
  rw [value, value]
  push_cast
  rw [habs]
  field_simp

theorem add?_eq_none : add? a b = none ↔ OutOfRange (a.value + b.value) := by
  unfold add?
  by_cases ha : a.isZero
  · rw [if_pos ha, isZero_iff.mp ha, zero_add]
    exact iff_of_false (Option.some_ne_none _) b.not_outOfRange_value
  by_cases hb : b.isZero
  · rw [if_neg ha, if_pos hb, isZero_iff.mp hb, add_zero]
    exact iff_of_false (Option.some_ne_none _) a.not_outOfRange_value
  rw [if_neg ha, if_neg hb, nearest?_eq_none (tenPow_pos _), value_add_value]

theorem add_eq_error : a.add b = .error o ↔ o = .addition ∧ OutOfRange (a.value + b.value) := by
  rw [add, ← add?_eq_none]
  cases add? a b <;> simp [eq_comm]

theorem value_neg (d : Decimal) : d.neg.value = -d.value := by
  rw [value, coefficient_neg, Int.cast_neg, neg_div]
  rfl

/-- Subtraction adds the opposite, or a zero as it is. -/
theorem value_subtrahend (b : Decimal) : (if b.isZero then b else b.neg).value = -b.value := by
  split
  next h => rw [isZero_iff.mp h, neg_zero]
  next => exact value_neg b

theorem sub_eq_error : a.sub b = .error o ↔ o = .subtraction ∧ OutOfRange (a.value - b.value) := by
  rw [sub, sub_eq_add_neg, ← value_subtrahend, ← add?_eq_none]
  cases add? a (if b.isZero then b else b.neg) <;> simp [eq_comm]

/-- A product with a zero is zero. -/
theorem value_mul_value_of_isZero (h : (a.isZero || b.isZero) = true) : a.value * b.value = 0 := by
  rw [mul_eq_zero, ← isZero_iff, ← isZero_iff, ← Bool.or_eq_true]
  exact h

theorem mul_eq_error : a.mul b = .error o ↔ o = .multiplication ∧ OutOfRange (a.value * b.value) := by
  unfold mul
  by_cases hzero : (a.isZero || b.isZero) = true
  · rw [if_pos hzero, value_mul_value_of_isZero hzero, ← value_zero]
    exact iff_of_false nofun fun h => zero.not_outOfRange_value h.2
  rw [if_neg hzero, value_mul_value, ← nearest?_eq_none (tenPow_pos _) (Nat.min_le_right (a.scale + b.scale) maxScale)]
  cases nearest? _ _ _ _ <;> simp [eq_comm]

/-- A quotient by zero has no value. -/
theorem div_eq_error : a.div b = .error o ↔
    o = .division ∧ (b.isZero = true ∨ OutOfRange (a.value / b.value)) := by
  unfold div
  by_cases hb : b.isZero
  · simp [hb, eq_comm]
  by_cases ha : a.isZero
  · rw [if_neg hb, if_pos ha, isZero_iff.mp ha, zero_div, ← value_zero]
    exact iff_of_false nofun fun h => h.2.elim hb zero.not_outOfRange_value
  rw [if_neg hb, if_neg ha, or_iff_right hb]
  rw [value_div_value hb, ← nearest?_eq_none (quotient_den_pos hb) (Nat.le_refl maxScale)]
  cases nearest? _ _ _ _ <;> simp [eq_comm]

end Decimal

end CostJournal
