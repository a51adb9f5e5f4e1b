import CostJournal.Proofs.Decimal.RoundsTo
import CostJournal.Proofs.Invoices.Conversion

/-!
# The drift of converted amounts

An amount whose exact product with the rate is a decimal is rounded once (`exists_convertAmount`), to the nearest
multiple of the last place that is kept (`isNearestMultiple_roundTo`). As rounding half to even treats both signs
alike and keeps the order, converting does too. Each amount is off by half of that place at most, and a list of them
by that much for each (`exists_mapM_drift`); rounding errors do not grow faster than that.
-/

namespace CostJournal

/-- The decimal is a multiple of the last of the places, at most half of it away from the number, and an even multiple
where it is half of it away. -/
def IsNearestMultiple (places : Nat) (q : ℚ) (x : Decimal) : Prop :=
  ∃ k : Int, x.value = k / tenPow places ∧ |x.value - q| ≤ 1 / (2 * tenPow places) ∧
    (|x.value - q| = 1 / (2 * tenPow places) → k % 2 = 0)

theorem isNearestMultiple_roundTo (d : Decimal) (places : Nat) (h : places ≤ maxScale) :
    IsNearestMultiple places d.value (d.roundTo places h) := by
  have hunit := Decimal.tenPow_cast_pos places
  have hvalue := d.value_roundTo places h
  have hdistance : |(d.roundTo places h).value - d.value| =
      |(halfEven (d.value * tenPow places) : ℚ) - d.value * tenPow places| / tenPow places := by
    rw [hvalue, ← abs_of_pos hunit, ← abs_div, abs_of_pos hunit, sub_div, mul_div_cancel_right₀ _ hunit.ne']
  refine ⟨_, hvalue, ?_, fun htie => ?_⟩
  · rw [hdistance, ← div_div]
    exact div_le_div_of_nonneg_right (abs_halfEven_sub_le _) hunit.le
  · rw [hdistance, ← div_div, div_left_inj' hunit.ne', abs_sub_comm] at htie
    exact halfEven_mod_two htie

/-- Some decimal is the exact product of the amount and the rate, perhaps without zeros at the end of it. -/
def FitsAt (rate amount : Decimal) : Prop := ∃ product : Decimal, product.value = amount.value * rate.value

namespace FitsAt
variable {rate amount : Decimal}

/-- A product has room where that of the coefficients has, at the sum of the scales. -/
theorem of_coefficients (hc : (amount.coefficient * rate.coefficient).natAbs < coefficientLimit)
    (hs : amount.scale + rate.scale ≤ maxScale) : FitsAt rate amount := by
  obtain ⟨product, hproduct⟩ := Decimal.exists_value_eq _ _ hc hs
  exact ⟨product, hproduct.trans (Decimal.value_mul_value amount rate).symm⟩

theorem neg (h : FitsAt rate amount) : FitsAt rate amount.neg := by
  obtain ⟨product, hproduct⟩ := h
  exact ⟨product.neg, by rw [Decimal.value_neg, Decimal.value_neg, hproduct, neg_mul]⟩

end FitsAt

/-- Errors of at most a bound add up to at most as many bounds. -/
theorem exists_mapM_drift {f : Decimal → Checked Decimal} {r bound : ℚ} {amounts : List Decimal}
    (h : ∀ a ∈ amounts, ∃ x, f a = .ok x ∧ |x.value - a.value * r| ≤ bound) :
    ∃ converted, amounts.mapM f = .ok converted ∧
      |(converted.map Decimal.value).sum - r * (amounts.map Decimal.value).sum| ≤ amounts.length * bound := by
  induction amounts with
  | nil => exact ⟨[], rfl, by simp⟩
  | cons a amounts ih =>
    obtain ⟨⟨x, hx, hnear⟩, hrest⟩ := List.forall_mem_cons.mp h
    obtain ⟨converted, hconverted, hdrift⟩ := ih hrest
    refine ⟨x :: converted, mapM_eq_ok.mpr (.cons hx (mapM_eq_ok.mp hconverted)), ?_⟩
    simp only [List.map_cons, List.sum_cons, List.length_cons]
    generalize (converted.map Decimal.value).sum = total, (amounts.map Decimal.value).sum = exact at hdrift
    calc |x.value + total - r * (a.value + exact)|
        = |(x.value - a.value * r) + (total - r * exact)| := by ring_nf
      _ ≤ |x.value - a.value * r| + |total - r * exact| := abs_add_le _ _
      _ ≤ bound + amounts.length * bound := add_le_add hnear hdrift
      _ = ((amounts.length + 1 : Nat) : ℚ) * bound := by push_cast; ring

section
variable {d : InvoiceEntityDetails} {a b : Decimal} (hneeds : d.needsConversion = true)
include hneeds

/-- A product that fits is exact before it is rounded. -/
theorem exists_convertAmount (hfits : FitsAt d.exchangeRate a) :
    ∃ product : Decimal, product.value = a.value * d.exchangeRate.value ∧
      convertAmount a (some d) = .ok (product.roundTo convertedScale convertedScale_le_maxScale) := by
  obtain ⟨_, hvalue⟩ := hfits
  obtain ⟨product, hproduct, hexact⟩ := Decimal.exists_mul_of_value_eq hvalue
  exact ⟨product, hexact, by rw [convertAmount_of_needsConversion hneeds, convertedAt, hproduct]; rfl⟩

theorem convertAmount_isNearest (hfits : FitsAt d.exchangeRate a) :
    ∃ x, convertAmount a (some d) = .ok x ∧
      IsNearestMultiple convertedScale (a.value * d.exchangeRate.value) x := by
  obtain ⟨product, hproduct, hconvert⟩ := exists_convertAmount hneeds hfits
  exact ⟨_, hconvert, hproduct ▸ isNearestMultiple_roundTo product _ _⟩

theorem convertAmount_neg (hfits : FitsAt d.exchangeRate a) :
    ∃ x x', convertAmount a (some d) = .ok x ∧ convertAmount a.neg (some d) = .ok x' ∧ x'.value = -x.value := by
  obtain ⟨product, hproduct, hconvert⟩ := exists_convertAmount hneeds hfits
  obtain ⟨product', hproduct', hconvert'⟩ := exists_convertAmount hneeds hfits.neg
  have hopposite : product'.value = -product.value := by rw [hproduct', hproduct, Decimal.value_neg, neg_mul]
  exact ⟨_, _, hconvert, hconvert', Decimal.value_roundTo_of_value_eq_neg hopposite _⟩

theorem convertAmount_le (hrate : .zero ≤ d.exchangeRate) (ha : FitsAt d.exchangeRate a)
    (hb : FitsAt d.exchangeRate b) (hab : a ≤ b) :
    ∃ x y, convertAmount a (some d) = .ok x ∧ convertAmount b (some d) = .ok y ∧ x ≤ y := by
  obtain ⟨product, hproduct, hconvert⟩ := exists_convertAmount hneeds ha
  obtain ⟨product', hproduct', hconvert'⟩ := exists_convertAmount hneeds hb
  have hnonneg : 0 ≤ d.exchangeRate.value := Decimal.value_zero ▸ Decimal.value_le_value_iff.mpr hrate
  have hle : product ≤ product' := by
    rw [← Decimal.value_le_value_iff, hproduct, hproduct']
    exact mul_le_mul_of_nonneg_right (Decimal.value_le_value_iff.mpr hab) hnonneg
  exact ⟨_, _, hconvert, hconvert', Decimal.roundTo_le_roundTo hle _⟩

end

/-- Half of the last place that is kept of a converted amount. -/
def halfKept : ℚ := 1 / (2 * tenPow convertedScale)

example : halfKept = 5 / tenPow 7 := by decide +kernel

/-- Amounts are converted to the nearest ones that are kept, alike on both sides of zero and in their order, and all
together with no more than half a place lost for each. -/
structure ConvertsNearest (d : InvoiceEntityDetails) (amounts : List Decimal) : Prop where
  nearest : ∀ a ∈ amounts, ∃ x, convertAmount a (some d) = .ok x ∧
    IsNearestMultiple convertedScale (a.value * d.exchangeRate.value) x
  odd : ∀ a ∈ amounts, ∃ x x', convertAmount a (some d) = .ok x ∧ convertAmount a.neg (some d) = .ok x' ∧
    x'.value = -x.value
  mono : .zero ≤ d.exchangeRate → ∀ a ∈ amounts, ∀ b ∈ amounts, a ≤ b →
    ∃ x y, convertAmount a (some d) = .ok x ∧ convertAmount b (some d) = .ok y ∧ x ≤ y
  drift : ∃ converted, amounts.mapM (convertAmount · (some d)) = .ok converted ∧
    |(converted.map Decimal.value).sum - d.exchangeRate.value * (amounts.map Decimal.value).sum| ≤
      amounts.length * halfKept

namespace InvoiceEntityDetails
variable {d : InvoiceEntityDetails} {amounts : List Decimal}

theorem convertsNearest_of_fits (hneeds : d.needsConversion = true)
    (hfits : ∀ a ∈ amounts, FitsAt d.exchangeRate a) : ConvertsNearest d amounts := by
  refine ⟨fun a ha => convertAmount_isNearest hneeds (hfits a ha), fun a ha => convertAmount_neg hneeds (hfits a ha),
    fun hrate a ha b hb hab => convertAmount_le hneeds hrate (hfits a ha) (hfits b hb) hab, ?_⟩
  refine exists_mapM_drift fun a ha => ?_
  obtain ⟨x, hx, _, -, hnear, -⟩ := convertAmount_isNearest hneeds (hfits a ha)
  exact ⟨x, hx, hnear⟩

/-- An entity that is paid in euros, at half a euro for a dollar. -/
def atHalf : InvoiceEntityDetails :=
  ⟨"INV-1", "USD", "EUR", .ofCoefficient 500000 convertedScale (by decide) convertedScale_le_maxScale⟩

/-- A millionth of a dollar, three of them, and three of them below zero. -/
def millionths : List Decimal :=
  [.ofCoefficient 1 convertedScale (by decide) convertedScale_le_maxScale,
    .ofCoefficient 3 convertedScale (by decide) convertedScale_le_maxScale,
    .ofCoefficient (-3) convertedScale (by decide) convertedScale_le_maxScale]

/-- Half a millionth goes to none, and one and a half to two, on both sides of zero. -/
theorem convertsNearest_of_fits_halves :
    atHalf.needsConversion = true ∧ (∀ a ∈ millionths, FitsAt atHalf.exchangeRate a) ∧
      ConvertsNearest atHalf millionths ∧
      (millionths.mapM (convertAmount · (some atHalf))).map (·.map (·.coefficient)) = .ok [0, 2, -2] := by
  have hneeds : atHalf.needsConversion = true := by decide
  have hfits : ∀ a ∈ millionths, FitsAt atHalf.exchangeRate a := by
    have hroom : ∀ a ∈ millionths, (a.coefficient * atHalf.exchangeRate.coefficient).natAbs < coefficientLimit ∧
        a.scale + atHalf.exchangeRate.scale ≤ maxScale := by decide
    exact fun a ha => .of_coefficients (hroom a ha).1 (hroom a ha).2
  exact ⟨hneeds, hfits, convertsNearest_of_fits hneeds hfits, by decide +kernel⟩

end InvoiceEntityDetails

end CostJournal
