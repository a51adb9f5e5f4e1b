import CostJournal.Proofs.Account.OutOfRange
import CostJournal.Proofs.Decimal.RoundsTo

/-!
# Percentages of amounts

A percentage is a quotient that is rounded, times a hundred, rounded again. Where both amounts have at most ten places
and are not too large, the exact percentage is either a given number with four places or farther from it than two
roundings can move it (`le_abs_sub_of_ne`). So the rounded percentage is on the same side of every such number, and
keeps a distance from it (`KeepsSides`, `exists_percentage`).
-/

namespace CostJournal

namespace Decimal
variable {d : Decimal} {places : Nat}

/-- The value has at most so many places. -/
def HasPlaces (d : Decimal) (places : Nat) : Prop := ∃ n : Int, d.value * tenPow places = n

theorem hasPlaces_of_scale_le (h : d.scale ≤ places) : d.HasPlaces places := ⟨_, value_mul_tenPow_of_le h⟩

theorem abs_le_of_units {q : ℚ} {n : Int} (bound : Nat) (hn : q * tenPow places = n) (h : |q| ≤ bound) :
    |n| ≤ bound * tenPow places := by
  have hunits := mul_le_mul_of_nonneg_right h (tenPow_cast_pos places).le
  rw [← Nat.abs_cast (tenPow places), ← abs_mul, Nat.abs_cast, hn] at hunits
  exact_mod_cast hunits

/-- An amount of less than a thousand million with at most ten places. -/
structure IsAmount (d : Decimal) : Prop where
  abs_lt : |d.value| < tenPow 9
  places : d.HasPlaces 10

theorem IsAmount.abs_le (h : d.IsAmount) : |d.value| ≤ 2 * tenPow 9 := by
  have hlt := h.abs_lt
  have hpos := tenPow_cast_pos 9
  linarith

theorem abs_value_eq (d : Decimal) : |d.value| = d.magnitude / tenPow d.scale := by
  rw [value, abs_div, Nat.abs_cast, ← Int.cast_abs, Int.abs_eq_natAbs, natAbs_coefficient, Int.cast_natCast]

theorem isAmount_of_scale_le (hs : d.scale ≤ 10) (hm : d.magnitude < tenPow 9 * tenPow d.scale) : d.IsAmount := by
  refine ⟨?_, hasPlaces_of_scale_le hs⟩
  rw [abs_value_eq, div_lt_iff₀ (tenPow_cast_pos _)]
  exact_mod_cast hm

theorem isAmount_zero : zero.IsAmount := isAmount_of_scale_le (by decide) (by decide)

/-- A percentage from zero to a hundred with at most four places. -/
structure IsPercentage (d : Decimal) : Prop where
  nonneg : 0 ≤ d.value
  le_hundred : d.value ≤ 100
  places : d.HasPlaces 4

theorem isPercentage_of_scale_le (hs : d.scale ≤ 4) (hnegative : d.negative = false)
    (hm : d.magnitude ≤ 100 * tenPow d.scale) : d.IsPercentage := by
  have hvalue : d.value = d.magnitude / tenPow d.scale := by
    rw [value, coefficient_of_not_negative hnegative, Int.cast_natCast]
  refine ⟨?_, ?_, hasPlaces_of_scale_le hs⟩
  · rw [hvalue]
    positivity
  · rw [hvalue, div_le_iff₀ (tenPow_cast_pos _)]
    exact_mod_cast hm

theorem value_abs (d : Decimal) : d.abs.value = |d.value| := (abs_value_eq d).symm

end Decimal

open Decimal

namespace Discount
variable {part total observed ratio : Decimal} {r x : ℚ} {c n : Int} {scale : Nat}

/-- The magnitude of a part in percent of a total, in rational numbers; zero when the total is. -/
def exactPercentage (part total : ℚ) : ℚ := 100 * |part| / total

/-- How far the percentage stays away from a number with four places that it is not equal to. -/
def margin : ℚ := 1 / tenPow 26

/-- The rounded number is on the same side of all numbers with four places up to two hundred as the exact one, and at a
distance from those that the exact one is not equal to. -/
structure KeepsSides (x : ℚ) (observed : Decimal) : Prop where
  le : ∀ n : Int, |n| ≤ 2 * tenPow 6 → x ≤ n / tenPow 4 → observed.value ≤ n / tenPow 4
  ge : ∀ n : Int, |n| ≤ 2 * tenPow 6 → n / tenPow 4 ≤ x → n / tenPow 4 ≤ observed.value
  lt : ∀ n : Int, |n| ≤ 2 * tenPow 6 → x < n / tenPow 4 → observed.value ≤ n / tenPow 4 - margin
  gt : ∀ n : Int, |n| ≤ 2 * tenPow 6 → n / tenPow 4 < x → n / tenPow 4 + margin ≤ observed.value
  bounded : |observed.value| ≤ tenPow 21

/-- A quotient of amounts is a number with six places, or is not near it. -/
theorem le_abs_sub_of_ne {p t : Int} (ht : t ≠ 0) (hle : |t| ≤ 2 * tenPow 19) (hne : (p / t : ℚ) ≠ n / tenPow 6) :
    (1 / tenPow 28 : ℚ) ≤ |(p / t : ℚ) - n / tenPow 6| := by
  have hcast : (t : ℚ) ≠ 0 := Int.cast_ne_zero.mpr ht
  have hsix := tenPow_cast_pos 6
  have hsub : (p / t : ℚ) - n / tenPow 6 = (p * tenPow 6 - t * n : Int) / (t * tenPow 6) := by
    rw [div_sub_div _ _ hcast hsix.ne']
    push_cast
    rfl
  -- the numerator of the difference is a whole number, and not zero
  have hone : (1 : ℚ) ≤ |((p * tenPow 6 - t * n : Int) : ℚ)| := by
    rw [← Int.cast_abs]
    refine Int.cast_one_le_of_pos (abs_pos.mpr fun hzero => hne ?_)
    rw [← sub_eq_zero, hsub, hzero, Int.cast_zero, zero_div]
  have hden : |(t : ℚ)| * tenPow 6 ≤ tenPow 28 := by
    have hle : |(t : ℚ)| ≤ 2 * tenPow 19 := by exact_mod_cast hle
    have hmul := mul_le_mul_of_nonneg_right hle hsix.le
    refine hmul.trans ?_
    norm_num [tenPow]
  rw [hsub, abs_div, abs_mul, Nat.abs_cast]
  calc (1 / tenPow 28 : ℚ) ≤ 1 / (|(t : ℚ)| * tenPow 6) :=
        one_div_le_one_div_of_le (mul_pos (abs_pos.mpr hcast) hsix) hden
    _ ≤ _ := div_le_div_of_nonneg_right hone (mul_pos (abs_pos.mpr hcast) hsix).le

theorem div_tenPow_add_two (c : Int) (scale : Nat) : (c / tenPow (scale + 2) : ℚ) * 100 = c / tenPow scale := by
  have := (tenPow_cast_pos scale).ne'
  rw [tenPow_succ, tenPow_succ]
  push_cast
  field_simp
  norm_num

theorem div_tenPow_add (n z : Int) (scale : Nat) :
    ((n * tenPow 22 + z : Int) / tenPow (scale + 22) : ℚ) = n / tenPow scale + z / tenPow (scale + 22) := by
  have := (tenPow_cast_pos scale).ne'
  have := (tenPow_cast_pos 22).ne'
  rw [tenPow_add]
  push_cast
  field_simp

theorem natAbs_lt_of_abs_le (h : |n| ≤ 2 * tenPow 6) : n.natAbs < coefficientLimit := by
  have hlimit : 2 * tenPow 6 < coefficientLimit := by decide
  have := abs_le.mp h
  omega

theorem natAbs_scaled_lt {z : Int} (h : |n| ≤ 2 * tenPow 6) (hz : z.natAbs ≤ 1) :
    (n * tenPow 22 + z).natAbs < coefficientLimit := by
  have hlimit : 2 * tenPow 6 * tenPow 22 + 1 < coefficientLimit := by decide
  have hle := Nat.mul_le_mul_right (tenPow 22) (show n.natAbs ≤ 2 * tenPow 6 by have := abs_le.mp h; omega)
  have hadd := Int.natAbs_add_le (n * tenPow 22) z
  rw [Int.natAbs_mul, Int.natAbs_natCast] at hadd
  omega

theorem abs_mul_hundred_le {q : ℚ} (h : |q| ≤ tenPow 19) : |q * 100| ≤ tenPow 21 := by
  have hmul := mul_le_mul_of_nonneg_right h (show (0 : ℚ) ≤ 100 by norm_num)
  rw [abs_mul, abs_of_pos (show (0 : ℚ) < 100 by norm_num)]
  refine hmul.trans_eq ?_
  norm_num [tenPow]

section
variable (hratio : RoundsTo r ratio) (hobserved : RoundsTo (ratio.value * 100) observed)
include hratio hobserved

theorem le_observed (c : Int) (scale : Nat) (hc : c.natAbs < coefficientLimit) (hs : scale + 2 ≤ maxScale)
    (h : c / tenPow (scale + 2) ≤ r) : c / tenPow scale ≤ observed.value := by
  obtain ⟨e, he⟩ := exists_value_eq c _ hc hs
  obtain ⟨e', he'⟩ := exists_value_eq c _ hc ((Nat.le_add_right _ 2).trans hs)
  have hle := hratio.le_value e (he ▸ h)
  refine he' ▸ hobserved.le_value e' ?_
  rw [he', ← div_tenPow_add_two, ← he]
  exact mul_le_mul_of_nonneg_right hle (by norm_num)

theorem observed_le (c : Int) (scale : Nat) (hc : c.natAbs < coefficientLimit) (hs : scale + 2 ≤ maxScale)
    (h : r ≤ c / tenPow (scale + 2)) : observed.value ≤ c / tenPow scale := by
  obtain ⟨e, he⟩ := exists_value_eq c _ hc hs
  obtain ⟨e', he'⟩ := exists_value_eq c _ hc ((Nat.le_add_right _ 2).trans hs)
  have hle := hratio.value_le e (he ▸ h)
  refine he' ▸ hobserved.value_le e' ?_
  rw [he', ← div_tenPow_add_two, ← he]
  exact mul_le_mul_of_nonneg_right hle (by norm_num)

theorem keepsSides (hx : r * 100 = x)
    (hgap : ∀ n : Int, r ≠ n / tenPow 6 → (1 / tenPow 28 : ℚ) ≤ |r - n / tenPow 6|) (hle : |r| ≤ tenPow 19) :
    KeepsSides x observed := by
  subst hx
  have hle_iff : ∀ n : Int, r * 100 ≤ n / tenPow 4 ↔ r ≤ n / tenPow 6 := fun n => by
    rw [← div_tenPow_add_two n 4, mul_le_mul_iff_left₀ (by norm_num)]
  have hge_iff : ∀ n : Int, n / tenPow 4 ≤ r * 100 ↔ n / tenPow 6 ≤ r := fun n => by
    rw [← div_tenPow_add_two n 4, mul_le_mul_iff_left₀ (by norm_num)]
  refine ⟨fun n hn h => ?_, fun n hn h => ?_, fun n hn h => ?_, fun n hn h => ?_, ?_⟩
  · exact observed_le hratio hobserved _ _ (natAbs_lt_of_abs_le hn) (by decide) ((hle_iff n).mp h)
  · exact le_observed hratio hobserved _ _ (natAbs_lt_of_abs_le hn) (by decide) ((hge_iff n).mp h)
  · have hlt := (lt_iff_lt_of_le_iff_le (hge_iff n)).mp h
    have hgap := hgap n hlt.ne
    rw [abs_of_neg (sub_neg.mpr hlt)] at hgap
    have hle := observed_le hratio hobserved (n * tenPow 22 + -1) 26
      (natAbs_scaled_lt hn (by decide)) (by decide)
    rw [div_tenPow_add n (-1) 6, div_tenPow_add n (-1) 4, Int.cast_neg, Int.cast_one, neg_div,
      neg_div] at hle
    rw [margin]
    have := hle (by linarith)
    linarith
  · have hlt := (lt_iff_lt_of_le_iff_le (hle_iff n)).mp h
    have hgap := hgap n hlt.ne'
    rw [abs_of_pos (sub_pos.mpr hlt)] at hgap
    have hle := le_observed hratio hobserved (n * tenPow 22 + 1) 26
      (natAbs_scaled_lt hn (by decide)) (by decide)
    rw [div_tenPow_add n 1 6, div_tenPow_add n 1 4, Int.cast_one] at hle
    rw [margin]
    have := hle (by linarith)
    linarith
  · exact hobserved.abs_value_le (by decide) (abs_mul_hundred_le (hratio.abs_value_le (by decide) hle))

end

theorem keepsSides_zero : KeepsSides 0 .zero := by
  have hzero : RoundsTo 0 .zero := value_zero ▸ roundsTo_value zero
  refine keepsSides hzero ?_ (zero_mul 100) (fun n hne => ?_) ?_
  · rw [value_zero, zero_mul]
    exact hzero
  · have hgap := le_abs_sub_of_ne (n := n) (p := 0) one_ne_zero (by decide)
    rw [Int.cast_zero, zero_div] at hgap
    exact hgap hne
  · rw [abs_zero]
    exact (tenPow_cast_pos 19).le

theorem exists_quotient (hpart : part.IsAmount) (htotal : total.HasPlaces 10) (hlt : |total.value| ≤ 2 * tenPow 9)
    (hzero : total.value ≠ 0) :
    ∃ p t : Int, |part.value| / total.value = p / t ∧ t ≠ 0 ∧ |t| ≤ 2 * tenPow 19 ∧ |p| ≤ tenPow 19 := by
  have hunit := tenPow_cast_pos 10
  obtain ⟨p, hp⟩ := hpart.places
  obtain ⟨t, ht⟩ := htotal
  refine ⟨|p|, t, ?_, ?_, ?_, ?_⟩
  · rw [Int.cast_abs, ← hp, ← ht, abs_mul, Nat.abs_cast, mul_div_mul_right _ _ hunit.ne']
  · rintro rfl
    rw [Int.cast_zero, mul_eq_zero, or_iff_left hunit.ne'] at ht
    exact hzero ht
  · have hunits := abs_le_of_units (2 * tenPow 9) ht (by exact_mod_cast hlt)
    exact hunits.trans_eq (by decide)
  · have hunits := abs_le_of_units _ hp hpart.abs_lt.le
    rw [abs_abs]
    exact hunits.trans_eq (by decide)

theorem exists_percentage (hpart : part.IsAmount) (htotal : total.HasPlaces 10)
    (hlt : |total.value| ≤ 2 * tenPow 9) :
    ∃ observed, percentage part total = .ok observed ∧
      KeepsSides (exactPercentage part.value total.value) observed := by
  cases hzero : total.isZero with
  | true =>
    refine ⟨.zero, by rw [percentage, if_pos hzero], ?_⟩
    rw [exactPercentage, isZero_iff.mp hzero, div_zero]
    exact keepsSides_zero
  | false =>
    have hne : total.value ≠ 0 := fun h => Bool.false_ne_true (hzero.symm.trans (isZero_iff.mpr h))
    obtain ⟨p, t, hquotient, ht, hle, hp⟩ := exists_quotient hpart htotal hlt hne
    have hr : |(p / t : ℚ)| ≤ tenPow 19 := by
      have hone : (1 : ℚ) ≤ |(t : ℚ)| := by exact_mod_cast Int.one_le_abs ht
      have hp : |(p : ℚ)| ≤ tenPow 19 := by exact_mod_cast hp
      rw [abs_div]
      exact (div_le_self (abs_nonneg _) hone).trans hp
    rw [← hquotient, ← value_abs] at hr
    obtain ⟨ratio, hratio, hrounds⟩ := exists_div (by decide) hzero hr
    have hle' := abs_mul_hundred_le (hrounds.abs_value_le (by decide) hr)
    rw [← value_hundred] at hle'
    obtain ⟨observed, hobserved, hrounds'⟩ := exists_mul (by decide) hle'
    refine ⟨observed, ?_, ?_⟩
    · rw [percentage, if_neg (Bool.eq_false_iff.mp hzero), hratio]
      exact hobserved
    · rw [value_abs, hquotient] at hrounds hr
      rw [value_hundred] at hrounds'
      refine keepsSides hrounds hrounds' ?_ (fun n => le_abs_sub_of_ne ht hle) hr
      rw [exactPercentage, mul_div_assoc, hquotient, mul_comm]

end Discount

end CostJournal
