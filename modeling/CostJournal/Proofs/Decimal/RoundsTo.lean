import CostJournal.Proofs.Decimal.Sums

/-!
# Rounding passes no decimal

What an operation gives is the decimal nearest to the exact result, with as many places as there is room for. Every
decimal that is not above the exact result is then not above the rounded one, and the same holds from below
(`RoundsTo`), for each operation (`roundsTo_div`, `roundsTo_mul`, `roundsTo_add`, `roundsTo_sub`). How far a result is
rounded does not matter after that: it is compared with decimals on both sides of the exact one.
-/

namespace CostJournal.Decimal
variable {a b d e : Decimal} {num : Int} {den scale : Nat} {q : ℚ}

/-- No decimal is between the number and the decimal that it is rounded to. -/
structure RoundsTo (q : ℚ) (d : Decimal) : Prop where
  le_value : ∀ e : Decimal, e.value ≤ q → e.value ≤ d.value
  value_le : ∀ e : Decimal, q ≤ e.value → d.value ≤ e.value

theorem RoundsTo.value_eq (h : RoundsTo e.value d) : d.value = e.value :=
  le_antisymm (h.value_le e le_rfl) (h.le_value e le_rfl)

theorem exists_value_eq (c : Int) (scale : Nat) (hc : c.natAbs < coefficientLimit) (hs : scale ≤ maxScale) :
    ∃ e : Decimal, e.value = c / tenPow scale :=
  ⟨ofCoefficient c scale hc hs, by rw [value, coefficient_ofCoefficient]; rfl⟩

theorem RoundsTo.abs_value_le {bound : Nat} (h : RoundsTo q d) (hbound : bound < coefficientLimit) (hq : |q| ≤ bound) :
    |d.value| ≤ bound := by
  obtain ⟨e, he⟩ := exists_value_eq bound 0 hbound (Nat.zero_le _)
  obtain ⟨e', he'⟩ := exists_value_eq (-bound) 0 (by rwa [Int.natAbs_neg]) (Nat.zero_le _)
  rw [tenPow_zero, Nat.cast_one, div_one, Int.cast_natCast] at he
  rw [tenPow_zero, Nat.cast_one, div_one, Int.cast_neg, Int.cast_natCast] at he'
  obtain ⟨hlow, hhigh⟩ := abs_le.mp hq
  exact abs_le.mpr ⟨he' ▸ h.le_value e' (he' ▸ hlow), he ▸ h.value_le e (he ▸ hhigh)⟩

theorem roundsTo_value (d : Decimal) : RoundsTo d.value d := ⟨fun _ h => h, fun _ h => h⟩

/-- A number that needs all digits is rounded to a whole number beyond every tenth that has no more digits. -/
theorem le_of_far {c : Int} {y z : ℚ} (hnear : |c - y| ≤ 1 / 2) (hz : |z| * 10 ≤ coefficientLimit - 1)
    (hy : coefficientLimit - 1 / 2 ≤ |y| * 10) (hle : z ≤ y) : z ≤ c := by
  obtain ⟨hlow, -⟩ := abs_le.mp hnear
  have hz' := le_abs_self z
  have hnonneg : 0 ≤ y := by
    by_contra hneg
    rw [abs_of_nonpos (not_le.mp hneg).le] at hy
    have := neg_abs_le z
    linarith
  rw [abs_of_nonneg hnonneg] at hy
  -- the limit ends in a six, so its tenth is rounded up
  obtain ⟨m, hm⟩ : ∃ m : Nat, coefficientLimit = 10 * m + 6 := ⟨coefficientLimit / 10, by decide⟩
  rw [hm] at hz hy
  push_cast at hz hy
  have hc : (m : Int) < c := by
    have : (m : ℚ) < c := by linarith
    exact_mod_cast this
  have hc : (m + 1 : ℚ) ≤ c := by exact_mod_cast hc
  linarith

theorem le_rounded {c : Int} {y z : ℚ} (hnear : |c - y| ≤ 1 / 2)
    (hcases : (∃ k : Int, z = k) ∨ c = y ∨ |z| * 10 ≤ coefficientLimit - 1 ∧ coefficientLimit - 1 / 2 ≤ |y| * 10)
    (hle : z ≤ y) : z ≤ c := by
  rcases hcases with ⟨k, rfl⟩ | heq | ⟨hz, hy⟩
  · -- whole numbers less than one apart the wrong way
    obtain ⟨hlow, -⟩ := abs_le.mp hnear
    have hlt : (k : ℚ) < (c + 1 : Int) := by
      push_cast
      linarith
    exact_mod_cast Int.lt_add_one_iff.mp (Int.cast_lt.mp hlt)
  · exact heq ▸ hle
  · exact le_of_far hnear hz hy hle

theorem rounded_le {c : Int} {y z : ℚ} (hnear : |c - y| ≤ 1 / 2)
    (hcases : (∃ k : Int, z = k) ∨ c = y ∨ |z| * 10 ≤ coefficientLimit - 1 ∧ coefficientLimit - 1 / 2 ≤ |y| * 10)
    (hle : y ≤ z) : c ≤ z := by
  have hnear' : |((-c : Int) : ℚ) - -y| ≤ 1 / 2 := by
    rwa [Int.cast_neg, neg_sub_neg, abs_sub_comm]
  have hneg : -z ≤ ((-c : Int) : ℚ) := by
    refine le_rounded hnear' ?_ (neg_le_neg hle)
    rcases hcases with ⟨k, rfl⟩ | rfl | hfar
    · exact .inl ⟨-k, (Int.cast_neg k).symm⟩
    · exact .inr (.inl (Int.cast_neg c))
    · exact .inr (.inr (by rwa [abs_neg, abs_neg]))
  rwa [Int.cast_neg, neg_le_neg_iff] at hneg

namespace IsNearest

/-- Against another decimal, the fraction is compared in whole units of the last place, or is not rounded, or has
more digits. -/
theorem cases_of_places (h : IsNearest num den scale d) (hden : 0 < den)
    (hplaces : e.scale ≤ scale ∨ ∃ c : Int, (num / den * tenPow scale : ℚ) = c) :
    (∃ k : Int, e.value * tenPow d.scale = k) ∨ d.coefficient = (num / den * tenPow d.scale : ℚ) ∨
      |e.value * tenPow d.scale| * 10 ≤ coefficientLimit - 1 ∧
        coefficientLimit - 1 / 2 ≤ |(num / den * tenPow d.scale : ℚ)| * 10 := by
  by_cases hle : e.scale ≤ d.scale
  · exact .inl ⟨_, value_mul_tenPow_of_le hle⟩
  have hgt := Nat.lt_of_not_le hle
  rcases Nat.lt_or_eq_of_le h.scale_le with hlt | heq
  · have hout := h.noRoom hlt
    have hten : ∀ x : ℚ, |x * tenPow (d.scale + 1)| = |x * tenPow d.scale| * 10 := fun x => by
      rw [tenPow_succ, Nat.cast_mul, ← mul_assoc, abs_mul _ ((10 : Nat) : ℚ), Nat.abs_cast, Nat.cast_ofNat]
    have hle : |e.value * tenPow (d.scale + 1)| ≤ |(e.coefficient : ℚ)| := by
      rw [← value_mul_tenPow, abs_mul, abs_mul, Nat.abs_cast, Nat.abs_cast]
      refine mul_le_mul_of_nonneg_left ?_ (abs_nonneg _)
      exact_mod_cast tenPow_le_tenPow hgt
    rw [OutOfRange, hten] at hout
    exact .inr (.inr ⟨hten e.value ▸ hle.trans e.abs_coefficient_le, hout⟩)
  · rcases hplaces with hle | ⟨c, hc⟩
    · exact absurd (heq ▸ hle) (Nat.not_le.mpr hgt)
    · rw [← heq] at hc
      rw [← value_mul_tenPow, h.value_eq_of_units hden hc]
      exact .inr (.inl rfl)

theorem roundsTo (h : IsNearest num den scale d) (hden : 0 < den)
    (hplaces : scale = maxScale ∨ ∃ c : Int, (num / den * tenPow scale : ℚ) = c) : RoundsTo (num / den) d := by
  have hunit := tenPow_cast_pos d.scale
  have hnear := h.abs_sub_le hden
  have hcases := fun e : Decimal =>
    h.cases_of_places (e := e) hden (hplaces.imp_left (le_of_le_of_eq e.scale_le ·.symm))
  refine ⟨fun e hle => ?_, fun e hle => ?_⟩
  · rw [← mul_le_mul_iff_of_pos_right hunit, value_mul_tenPow]
    exact le_rounded hnear (hcases e) (mul_le_mul_of_nonneg_right hle hunit.le)
  · rw [← mul_le_mul_iff_of_pos_right hunit, value_mul_tenPow]
    exact rounded_le hnear (hcases e) (mul_le_mul_of_nonneg_right hle hunit.le)

end IsNearest

theorem roundsTo_add? (h : add? a b = some d) : RoundsTo (a.value + b.value) d := by
  rcases add?_eq_some h with ⟨hzero, rfl⟩ | ⟨hzero, rfl⟩ | hnearest
  · rw [isZero_iff.mp hzero, zero_add]
    exact roundsTo_value d
  · rw [isZero_iff.mp hzero, add_zero]
    exact roundsTo_value d
  · have hplaces := congrArg₂ (· + ·) (value_mul_tenPow_of_le (Nat.le_max_left a.scale b.scale))
      (value_mul_tenPow_of_le (Nat.le_max_right a.scale b.scale))
    simp only [← add_mul, ← Int.cast_add] at hplaces
    rw [value_add_value] at hplaces ⊢
    exact hnearest.roundsTo (tenPow_pos _) (.inr ⟨_, hplaces⟩)

theorem roundsTo_add (h : a.add b = .ok d) : RoundsTo (a.value + b.value) d := roundsTo_add? (add_eq_ok.mp h)

theorem roundsTo_sub (h : a.sub b = .ok d) : RoundsTo (a.value - b.value) d := by
  rw [sub_eq_add_neg, ← value_subtrahend]
  unfold sub at h
  split at h
  next hd =>
    cases h
    exact roundsTo_add? hd
  next => cases h

theorem roundsTo_mul (h : a.mul b = .ok d) : RoundsTo (a.value * b.value) d := by
  rcases mul_eq_ok h with ⟨hproduct, rfl⟩ | ⟨d', hnearest, hplaces, hvalue⟩
  · rw [hproduct, ← value_zero]
    exact roundsTo_value zero
  · rw [value_mul_value] at hplaces ⊢
    have hrounds := hnearest.roundsTo (tenPow_pos _) hplaces
    exact ⟨fun e he => hvalue ▸ hrounds.le_value e he, fun e he => hvalue ▸ hrounds.value_le e he⟩

theorem roundsTo_div (h : a.div b = .ok d) : RoundsTo (a.value / b.value) d := by
  unfold div at h
  split at h
  next => cases h
  next hb =>
    split at h
    next ha =>
      cases h
      rw [isZero_iff.mp ha, zero_div, ← value_zero]
      exact roundsTo_value zero
    next =>
      split at h
      next hd =>
        cases h
        rw [value_div_value hb]
        exact (isNearest_of_nearest? (quotient_den_pos hb) hd).roundsTo (quotient_den_pos hb) (.inl rfl)
      next => cases h

/-! ### Results in range -/

/-- A product that some decimal has as its value is not rounded. -/
theorem exists_mul_of_value_eq (h : e.value = a.value * b.value) :
    ∃ d, a.mul b = .ok d ∧ d.value = a.value * b.value := by
  cases hmul : a.mul b with
  | error o => exact absurd (h ▸ (mul_eq_error.mp hmul).2) e.not_outOfRange_value
  | ok d =>
    have hrounds := roundsTo_mul hmul
    rw [← h] at hrounds
    exact ⟨d, rfl, hrounds.value_eq.trans h⟩

section
variable {bound : Nat} (hbound : bound < coefficientLimit)
include hbound

theorem exists_add (hle : |a.value + b.value| ≤ bound) : ∃ d, a.add b = .ok d ∧ RoundsTo (a.value + b.value) d := by
  cases hadd : a.add b with
  | error o => exact absurd (add_eq_error.mp hadd).2 (not_outOfRange_of_abs_le hle hbound)
  | ok d => exact ⟨d, rfl, roundsTo_add hadd⟩

theorem exists_sub (hle : |a.value - b.value| ≤ bound) : ∃ d, a.sub b = .ok d ∧ RoundsTo (a.value - b.value) d := by
  cases hsub : a.sub b with
  | error o => exact absurd (sub_eq_error.mp hsub).2 (not_outOfRange_of_abs_le hle hbound)
  | ok d => exact ⟨d, rfl, roundsTo_sub hsub⟩

theorem exists_mul (hle : |a.value * b.value| ≤ bound) : ∃ d, a.mul b = .ok d ∧ RoundsTo (a.value * b.value) d := by
  cases hmul : a.mul b with
  | error o => exact absurd (mul_eq_error.mp hmul).2 (not_outOfRange_of_abs_le hle hbound)
  | ok d => exact ⟨d, rfl, roundsTo_mul hmul⟩

theorem exists_div (hzero : b.isZero = false) (hle : |a.value / b.value| ≤ bound) :
    ∃ d, a.div b = .ok d ∧ RoundsTo (a.value / b.value) d := by
  cases hdiv : a.div b with
  | error o =>
    obtain ⟨-, hzero' | hout⟩ := div_eq_error.mp hdiv
    · cases hzero.symm.trans hzero'
    · exact absurd hout (not_outOfRange_of_abs_le hle hbound)
  | ok d => exact ⟨d, rfl, roundsTo_div hdiv⟩

end

end CostJournal.Decimal
