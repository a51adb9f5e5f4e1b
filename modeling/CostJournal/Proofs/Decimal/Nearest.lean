import CostJournal.Proofs.Decimal.Range
import Mathlib.Tactic.NormNum
import Mathlib.Tactic.Positivity

/-!
# The nearest decimal

What `nearest?` gives is the fraction rounded at its scale, and a scale below the one asked for means that the next
place has no room (`IsNearest`). So a result is exact if any decimal has the value (`IsNearest.value_eq`). Where
rounding starts at the last place or nothing is behind the places asked for, an even number of units of the last
place is passed exactly from half a unit beyond it (`IsNearest.lt_value_iff`).
-/

namespace CostJournal.Decimal
variable {a b d e : Decimal} {num : Int} {den scale n : Nat}

theorem tenPow_le_tenPow {m n : Nat} (h : m ≤ n) : tenPow m ≤ tenPow n := by
  rw [← Nat.add_sub_cancel' h, tenPow_add]
  exact Nat.le_mul_of_pos_right _ (tenPow_pos _)

theorem natCast_lt_intCast_iff {w : Int} : (n : ℚ) < w ↔ (n + 1 / 2 : ℚ) < w := by
  constructor
  · intro h
    have hnext : (n : Int) + 1 ≤ w := by exact_mod_cast h
    have hnext : (n + 1 : ℚ) ≤ w := by exact_mod_cast hnext
    linarith
  · intro h
    linarith

/-- A number and what it is rounded to are both far beyond the limit, or both far below zero. -/
theorem lt_mul_iff_of_far {limit : Nat} {c y p : ℚ} (hn : n + 6 ≤ limit) (hp : 10 ≤ p) (hnear : |c - y| ≤ 1 / 2)
    (hfar : (limit : ℚ) - 1 / 2 ≤ |y| * 10) : n < c * p ↔ n + 1 / 2 < y * p := by
  obtain ⟨hlow, hhigh⟩ := abs_le.mp hnear
  have hroom : (n + 6 : ℚ) ≤ limit := by exact_mod_cast hn
  have hzero : (0 : ℚ) ≤ n := Nat.cast_nonneg n
  rcases le_total 0 y with hy | hy
  · rw [abs_of_nonneg hy] at hfar
    have hcp := mul_le_mul_of_nonneg_left hp (by linarith : 0 ≤ c)
    have hyp := mul_le_mul_of_nonneg_left hp hy
    exact iff_of_true (by linarith) (by linarith)
  · rw [abs_of_nonpos hy] at hfar
    have hcp := mul_nonpos_of_nonpos_of_nonneg (by linarith : c ≤ 0) (by linarith : 0 ≤ p)
    have hyp := mul_nonpos_of_nonpos_of_nonneg hy (by linarith : 0 ≤ p)
    exact iff_of_false (by linarith) (by linarith)

theorem value_le_value_iff : a.value ≤ b.value ↔ a ≤ b := by
  rw [value, value, div_le_div_iff₀ (tenPow_cast_pos _) (tenPow_cast_pos _)]
  exact_mod_cast Iff.rfl

theorem value_lt_value_iff : a.value < b.value ↔ a < b := by
  rw [← not_le, value_le_value_iff]
  exact Int.not_le

theorem value_mul_tenPow (d : Decimal) : d.value * tenPow d.scale = d.coefficient :=
  div_mul_cancel₀ _ (tenPow_cast_pos _).ne'

/-- A decimal is a whole number of units of any place from its last one on. -/
theorem value_mul_tenPow_of_le (h : d.scale ≤ scale) :
    d.value * tenPow scale = (d.coefficient * tenPow (scale - d.scale) : Int) := by
  rw [← Nat.add_sub_cancel' h, tenPow_add, Nat.add_sub_cancel_left, Nat.cast_mul, ← mul_assoc, value_mul_tenPow]
  push_cast
  rfl

theorem abs_coefficient_le (d : Decimal) : |(d.coefficient : ℚ)| ≤ coefficientLimit - 1 := by
  have h : d.coefficient.natAbs + 1 ≤ coefficientLimit := d.natAbs_coefficient_lt
  rw [← Int.cast_abs, Int.abs_eq_natAbs, Int.cast_natCast, le_sub_iff_add_le]
  exact_mod_cast h

/-- The decimal is the fraction rounded at a scale up to the one asked for, and at a smaller one only where the next
place has no room. -/
structure IsNearest (num : Int) (den scale : Nat) (d : Decimal) : Prop where
  scale_le : d.scale ≤ scale
  coefficient_eq : d.coefficient = roundInt (num * tenPow d.scale) den
  noRoom : d.scale < scale → OutOfRange (num / den * tenPow (d.scale + 1))
  negative_eq : d.negative = decide (d.coefficient < 0)

theorem isNearest_ofCoefficient {c : Int} (hc : c.natAbs < coefficientLimit) (hs : scale ≤ maxScale)
    (h : c = roundInt (num * tenPow scale) den) : IsNearest num den scale (ofCoefficient c scale hc hs) := by
  refine ⟨Nat.le_refl _, ?_, fun hlt => absurd hlt (Nat.lt_irrefl _), ?_⟩
  · rw [coefficient_ofCoefficient]
    exact h
  · rw [coefficient_ofCoefficient]
    rfl

theorem isNearest_of_nearest? (hden : 0 < den) {hs : scale ≤ maxScale} (h : nearest? num den scale hs = some d) :
    IsNearest num den scale d := by
  induction scale with
  | zero =>
    rw [nearest?] at h
    split at h
    · cases h
      exact isNearest_ofCoefficient _ _ (by rw [tenPow_zero, Nat.cast_one, mul_one])
    · cases h
  | succ s ih =>
    rw [nearest?] at h
    split at h
    · cases h
      exact isNearest_ofCoefficient _ _ rfl
    next hfits =>
      obtain ⟨hscale, hcoefficient, hroom, hnegative⟩ := ih h
      refine ⟨Nat.le_succ_of_le hscale, hcoefficient, fun _ => ?_, hnegative⟩
      rcases Nat.lt_or_eq_of_le hscale with hlt | heq
      · exact hroom hlt
      · have hout := (coefficientLimit_le_roundInt hden).mp (Nat.not_lt.mp hfits)
        rw [heq, div_mul_eq_mul_div]
        exact_mod_cast hout

namespace IsNearest

theorem abs_sub_le (h : IsNearest num den scale d) (hden : 0 < den) :
    |(d.coefficient : ℚ) - num / den * tenPow d.scale| ≤ 1 / 2 := by
  have hround := abs_roundInt_sub_le (num * tenPow d.scale) hden
  rw [← h.coefficient_eq, Int.cast_mul, mul_div_right_comm] at hround
  exact_mod_cast hround

theorem value_eq_of_units (h : IsNearest num den scale d) (hden : 0 < den) {c : Int}
    (hc : (num / den * tenPow d.scale : ℚ) = c) : d.value = num / den := by
  have hnum : num * tenPow d.scale = c * den := by
    have hpos : (den : ℚ) ≠ 0 := (Nat.cast_pos.mpr hden).ne'
    have hq : (num : ℚ) * tenPow d.scale = c * den := by
      rw [← hc]
      field_simp
    exact_mod_cast hq
  rw [value, h.coefficient_eq, hnum, roundInt_mul_self c hden, ← hc, mul_div_cancel_right₀ _ (tenPow_cast_pos _).ne']

/-- A fraction that is a whole number of units at the scale asked for, and that some decimal has as its value, is not
rounded. -/
theorem value_eq (h : IsNearest num den scale d) (hden : 0 < den) {c : Int}
    (hc : (num / den * tenPow scale : ℚ) = c) (he : e.value = num / den) : d.value = num / den := by
  rcases Nat.lt_or_eq_of_le h.scale_le with hlt | heq
  · have hscale : e.scale ≤ d.scale := by
      by_contra hgt
      -- then the next place has room for the fraction, as the other decimal has it
      have hout := h.noRoom hlt
      rw [← he] at hout
      have hle : |e.value * tenPow (d.scale + 1)| ≤ |(e.coefficient : ℚ)| := by
        rw [← value_mul_tenPow, abs_mul, abs_mul, Nat.abs_cast, Nat.abs_cast]
        refine mul_le_mul_of_nonneg_left ?_ (abs_nonneg _)
        exact_mod_cast tenPow_le_tenPow (Nat.lt_of_not_le hgt)
      have hlimit := (hout.trans hle).trans e.abs_coefficient_le
      linarith
    exact h.value_eq_of_units hden (he ▸ value_mul_tenPow_of_le hscale)
  · rw [← heq] at hc
    exact h.value_eq_of_units hden hc

/-- An even number of units of the last place that a decimal can have is passed from half a unit beyond it. -/
theorem lt_value_iff (h : IsNearest num den scale d) (hden : 0 < den) (hs : scale ≤ maxScale)
    (hplaces : scale = maxScale ∨ ∃ c : Int, (num / den * tenPow scale : ℚ) = c) (heven : n % 2 = 0)
    (hn : n + 6 ≤ coefficientLimit) :
    (n / tenPow maxScale : ℚ) < d.value ↔ ((n + 1 / 2) / tenPow maxScale : ℚ) < num / den := by
  have hmax := tenPow_cast_pos maxScale
  have hsplit : ∀ k ≤ maxScale, (tenPow maxScale : ℚ) = tenPow k * tenPow (maxScale - k) := fun k hk => by
    rw [← Nat.cast_mul, ← tenPow_add, Nat.add_sub_cancel' hk]
  rw [div_lt_iff₀ hmax, div_lt_iff₀ hmax]
  rcases Nat.lt_or_eq_of_le h.scale_le with hlt | heq
  · -- the fraction is so far from zero that not all places of the scale have room
    have hout := h.noRoom hlt
    have hten : (10 : ℚ) ≤ tenPow (maxScale - d.scale) := by
      exact_mod_cast tenPow_le_tenPow (m := 1) (Nat.le_sub_of_add_le' (Nat.lt_of_lt_of_le hlt hs))
    rw [hsplit _ d.scale_le, ← mul_assoc, ← mul_assoc, value_mul_tenPow]
    rw [tenPow_succ, Nat.cast_mul, ← mul_assoc, OutOfRange, abs_mul] at hout
    exact lt_mul_iff_of_far hn hten (h.abs_sub_le hden) (by simpa using hout)
  · rcases hplaces with rfl | ⟨c, hc⟩
    · have hround := lt_roundInt_iff (num * tenPow d.scale) hden heven
      rw [← h.coefficient_eq, Int.cast_mul, mul_div_right_comm, heq] at hround
      rw [← heq, value_mul_tenPow, heq]
      exact_mod_cast hround
    · rw [← heq] at hc
      rw [h.value_eq_of_units hden hc, hsplit _ d.scale_le, ← mul_assoc, hc]
      exact_mod_cast natCast_lt_intCast_iff (w := c * tenPow (maxScale - d.scale))

end IsNearest

theorem zero_lt_iff : zero < d ↔ 0 < d.value := by
  rw [← value_lt_value_iff, value_zero]

theorem zero_lt_iff_of_hasValue {c : Int} (h : d.HasValue c scale) : zero < d ↔ 0 < c := by
  have hscale : (0 : Int) < tenPow scale := Int.natCast_pos.mpr (tenPow_pos _)
  have hscale' : (0 : Int) < tenPow d.scale := Int.natCast_pos.mpr (tenPow_pos _)
  rw [zero_lt_iff, value, div_pos_iff_of_pos_right (tenPow_cast_pos _), Int.cast_pos,
    ← mul_pos_iff_of_pos_right hscale, h, mul_pos_iff_of_pos_right hscale']

theorem zero_lt_roundTo_iff (d : Decimal) (places : Nat) (h : places ≤ maxScale) :
    zero < d.roundTo places h ↔ (1 / (2 * tenPow places) : ℚ) < d.value := by
  have hround := lt_roundInt_iff (d.coefficient * tenPow places) (n := 0) (tenPow_pos d.scale) rfl
  have hplaces := tenPow_cast_pos places
  rw [zero_lt_iff_of_hasValue (hasValue_roundTo d places h)]
  rw [Int.cast_mul, mul_div_right_comm, Int.cast_natCast, ← value, ← div_lt_iff₀ hplaces] at hround
  rw [← Int.natCast_zero, hround, Nat.cast_zero, zero_add, div_div]

theorem value_roundTo (d : Decimal) (places : Nat) (h : places ≤ maxScale) :
    (d.roundTo places h).value = halfEven (d.value * tenPow places) / tenPow places := by
  have hround := hasValue_roundTo d places h
  have hfraction : d.value * tenPow places = ((d.coefficient * tenPow places : Int) : ℚ) / (tenPow d.scale : Nat) := by
    rw [value, div_mul_eq_mul_div]
    push_cast
    rfl
  rw [hfraction, ← roundInt_eq_halfEven _ (tenPow_pos _), value,
    div_eq_div_iff (tenPow_cast_pos _).ne' (tenPow_cast_pos _).ne']
  exact_mod_cast hround

/-- Rounding treats both signs alike. -/
theorem value_roundTo_of_value_eq_neg {places : Nat} (hab : b.value = -a.value) (h : places ≤ maxScale) :
    (b.roundTo places h).value = -(a.roundTo places h).value := by
  rw [value_roundTo, value_roundTo, hab, neg_mul, halfEven_neg, Int.cast_neg, neg_div]

/-- Rounding keeps the order. -/
theorem roundTo_le_roundTo {places : Nat} (hab : a ≤ b) (h : places ≤ maxScale) :
    a.roundTo places h ≤ b.roundTo places h := by
  have hplaces := (tenPow_cast_pos places).le
  have hle := halfEven_le_halfEven (mul_le_mul_of_nonneg_right (value_le_value_iff.mpr hab) hplaces)
  rw [← value_le_value_iff, value_roundTo, value_roundTo]
  exact div_le_div_of_nonneg_right (Int.cast_le.mpr hle) hplaces

theorem value_withZeroSign (negative : Bool) (d : Decimal) : (d.withZeroSign negative).value = d.value := by
  rw [value, coefficient_withZeroSign, scale_withZeroSign, value]

/-- A product is the decimal nearest to the exact one, but for the sign of a zero, and where it is not asked for at the
last place nothing is behind the places asked for. -/
theorem mul_eq_ok (h : a.mul b = .ok d) : a.value * b.value = 0 ∧ d = zero ∨
    ∃ d', IsNearest (a.coefficient * b.coefficient) (tenPow (a.scale + b.scale)) (Nat.min (a.scale + b.scale) maxScale) d' ∧
      (Nat.min (a.scale + b.scale) maxScale = maxScale ∨
        ∃ c : Int, a.value * b.value * tenPow (Nat.min (a.scale + b.scale) maxScale) = c) ∧
      d.value = d'.value := by
  unfold mul at h
  split at h
  next hzero =>
    cases h
    exact .inl ⟨value_mul_value_of_isZero hzero, rfl⟩
  next =>
    split at h
    next d' hd' =>
      cases h
      refine .inr ⟨d', isNearest_of_nearest? (tenPow_pos _) hd', ?_, value_withZeroSign _ d'⟩
      rcases Nat.le_total (a.scale + b.scale) maxScale with hle | hle
      · refine .inr ⟨a.coefficient * b.coefficient, ?_⟩
        rw [show Nat.min (a.scale + b.scale) maxScale = a.scale + b.scale from Nat.min_eq_left hle, value_mul_value]
        exact div_mul_cancel₀ _ (tenPow_cast_pos _).ne'
      · exact .inl (Nat.min_eq_right hle)
    next => cases h

/-- A product passes an even number of units of the last place from half a unit beyond it. -/
theorem lt_value_mul_iff (h : a.mul b = .ok d) (heven : n % 2 = 0) (hn : n + 6 ≤ coefficientLimit) :
    (n / tenPow maxScale : ℚ) < d.value ↔ ((n + 1 / 2) / tenPow maxScale : ℚ) < a.value * b.value := by
  rcases mul_eq_ok h with ⟨hproduct, rfl⟩ | ⟨d', hnearest, hplaces, hvalue⟩
  · have hmax := tenPow_cast_pos maxScale
    rw [value_zero, hproduct]
    refine iff_of_false (not_lt_of_ge ?_) (not_lt_of_ge ?_) <;> positivity
  · rw [hvalue]
    rw [value_mul_value] at hplaces ⊢
    exact hnearest.lt_value_iff (tenPow_pos _) (Nat.min_le_right _ _) hplaces heven hn

end CostJournal.Decimal
