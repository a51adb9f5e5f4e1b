import CostJournal.Decimal.Basic
import Mathlib.Algebra.Order.Ring.Int
import Mathlib.Tactic.Ring

/-!
# Decimals in their smallest unit

Every decimal is a whole number of units of the last place that a decimal can have. Sums of units are
exact, and `le_iff_units_le` says that units are in the order of the decimals.
-/

namespace CostJournal.Decimal

/-- The value in units of the last of `maxScale` places. -/
def units (d : Decimal) : Int := d.coefficient * tenPow (maxScale - d.scale)

theorem units_mul_tenPow_scale (d : Decimal) :
    d.units * tenPow d.scale = d.coefficient * tenPow maxScale := by
  have h : tenPow (maxScale - d.scale) * tenPow d.scale = tenPow maxScale := by
    rw [← tenPow_add, Nat.sub_add_cancel d.scale_le]
  rw [units, mul_assoc, ← Nat.cast_mul, h]

theorem le_iff_units_le {a b : Decimal} : a ≤ b ↔ a.units ≤ b.units := by
  have hmax : (0 : Int) < tenPow maxScale := Int.natCast_pos.mpr (tenPow_pos _)
  have hscales : (0 : Int) < tenPow a.scale * tenPow b.scale :=
    mul_pos (Int.natCast_pos.mpr (tenPow_pos _)) (Int.natCast_pos.mpr (tenPow_pos _))
  have ha : a.units * (tenPow a.scale * tenPow b.scale) =
      a.coefficient * tenPow b.scale * tenPow maxScale := by
    rw [← mul_assoc, units_mul_tenPow_scale]
    ring
  have hb : b.units * (tenPow a.scale * tenPow b.scale) =
      b.coefficient * tenPow a.scale * tenPow maxScale := by
    rw [mul_comm (tenPow a.scale : Int), ← mul_assoc, units_mul_tenPow_scale]
    ring
  rw [← mul_le_mul_iff_of_pos_right hscales, ha, hb, mul_le_mul_iff_of_pos_right hmax]
  rfl

theorem le_refl (a : Decimal) : a ≤ a := le_iff_units_le.mpr (Int.le_refl _)

theorem le_trans {a b c : Decimal} (hab : a ≤ b) (hbc : b ≤ c) : a ≤ c :=
  le_iff_units_le.mpr (Int.le_trans (le_iff_units_le.mp hab) (le_iff_units_le.mp hbc))

theorem not_lt {a b : Decimal} : ¬ a < b ↔ b ≤ a := Int.not_lt

theorem max_eq_or (a b : Decimal) : a.max b = a ∨ a.max b = b := by
  unfold max
  split
  · exact .inr rfl
  · exact .inl rfl

theorem le_max_left (a b : Decimal) : a ≤ a.max b := by
  unfold max
  split
  next h => exact Int.le_of_lt h
  next => exact le_refl a

theorem le_max_right (a b : Decimal) : b ≤ a.max b := by
  unfold max
  split
  · exact le_refl b
  next h => exact not_lt.mp h

end CostJournal.Decimal
