import CostJournal.Proofs.HalfEven

/-!
# Rounding and products of decimals

`hasValue_roundTo` says which value a rounded decimal has, and `mul_eq_ok_of_fits` that a product which fits is
exact.
-/

namespace CostJournal

namespace Decimal
variable {a b d : Decimal} {c : Int} {scale : Nat}

/-- The value of the decimal is `c / 10 ^ scale`. -/
def HasValue (d : Decimal) (c : Int) (scale : Nat) : Prop :=
  d.coefficient * tenPow scale = c * tenPow d.scale

theorem coefficient_ofCoefficient (hc : c.natAbs < coefficientLimit) (hs : scale ≤ maxScale) :
    (ofCoefficient c scale hc hs).coefficient = c := by
  simp only [coefficient, ofCoefficient, decide_eq_true_eq]
  split <;> omega

theorem coefficient_of_isZero (h : d.isZero = true) : d.coefficient = 0 := by
  have hzero : d.magnitude = 0 := by simpa [isZero] using h
  simp [coefficient, hzero]

/-- A rounded decimal has the value rounded half to even at the last place that is kept. -/
theorem hasValue_roundTo (d : Decimal) (places : Nat) (h : places ≤ maxScale) :
    (d.roundTo places h).HasValue (roundInt (d.coefficient * tenPow places) (tenPow d.scale)) places := by
  unfold roundTo
  split
  next hzero =>
    rw [coefficient_of_isZero hzero]
    simp [HasValue, coefficient, roundInt]
  next =>
    split
    next hle =>
      -- nothing is rounded off: the value has no more places
      have hsplit : (tenPow places : Int) = tenPow (places - d.scale) * tenPow d.scale := by
        rw [← Nat.cast_mul, ← tenPow_add, Nat.sub_add_cancel hle]
      rw [HasValue, hsplit, ← mul_assoc, roundInt_mul_self _ (tenPow_pos _)]
    next hlt =>
      have hsplit : tenPow d.scale = tenPow (d.scale - places) * tenPow places := by
        rw [← tenPow_add, Nat.sub_add_cancel (Nat.le_of_not_le hlt)]
      rw [HasValue, coefficient_ofCoefficient, hsplit, roundInt_mul_right _ _ (tenPow_pos _)]
      rfl

/-- A value is rounded alike, however it is written. -/
theorem hasValue_roundTo_of_hasValue (hd : d.HasValue c scale) (places : Nat) (h : places ≤ maxScale) :
    (d.roundTo places h).HasValue (roundInt (c * tenPow places) (tenPow scale)) places := by
  have hround : roundInt (d.coefficient * tenPow places) (tenPow d.scale) =
      roundInt (c * tenPow places) (tenPow scale) := by
    refine roundInt_eq_of_mul_eq (tenPow_pos _) (tenPow_pos _) ?_
    rw [mul_right_comm, hd, mul_right_comm]
  rw [← hround]
  exact hasValue_roundTo d places h

/-- A fraction whose coefficient fits at the scale is not rounded. -/
theorem nearest?_of_fits (hc : c.natAbs < coefficientLimit) (hs : scale ≤ maxScale) :
    nearest? c (tenPow scale) scale hs = some (ofCoefficient c scale hc hs) := by
  cases scale with
  | zero =>
    have hround : roundInt c 1 = c := by simpa using roundInt_mul_self c Nat.one_pos
    simp [nearest?, tenPow_zero, hround, hc]
  | succ s => simp [nearest?, roundInt_mul_self _ (tenPow_pos _), hc]

theorem coefficient_withZeroSign (negative : Bool) (d : Decimal) :
    (d.withZeroSign negative).coefficient = d.coefficient := by
  unfold withZeroSign
  split
  next h =>
    rw [coefficient_of_isZero h]
    exact coefficient_of_isZero h
  next => rfl

theorem scale_withZeroSign (negative : Bool) (d : Decimal) :
    (d.withZeroSign negative).scale = d.scale := by
  unfold withZeroSign
  split <;> rfl

/-- A product that fits is exact. -/
theorem mul_eq_ok_of_fits (hc : (a.coefficient * b.coefficient).natAbs < coefficientLimit)
    (hs : a.scale + b.scale ≤ maxScale) :
    ∃ d, a.mul b = .ok d ∧ d.HasValue (a.coefficient * b.coefficient) (a.scale + b.scale) := by
  unfold mul
  split
  next hzero =>
    refine ⟨zero, rfl, ?_⟩
    have hproduct : a.coefficient * b.coefficient = 0 := by
      rcases Bool.or_eq_true _ _ |>.mp hzero with h | h
      · rw [coefficient_of_isZero h, zero_mul]
      · rw [coefficient_of_isZero h, mul_zero]
    rw [hproduct]
    simp [HasValue, coefficient, zero]
  next =>
    have hmin : Nat.min (a.scale + b.scale) maxScale = a.scale + b.scale := Nat.min_eq_left hs
    simp only [hmin, nearest?_of_fits hc hs]
    refine ⟨_, rfl, ?_⟩
    rw [HasValue, coefficient_withZeroSign, scale_withZeroSign, coefficient_ofCoefficient]
    rfl

end Decimal

end CostJournal
