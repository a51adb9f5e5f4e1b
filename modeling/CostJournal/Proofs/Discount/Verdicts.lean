import CostJournal.Proofs.Account.Admissible
import CostJournal.Proofs.Discount.Percentages

/-!
# Verdicts on discounts

A verdict compares the rounded percentage with numbers of four places: the ends of the tolerance, zero, or the halves
between whole percents. As the rounded percentage keeps the sides of the exact one (`Discount.KeepsSides`), and
subtraction does not pass a decimal either, no rounding changes a verdict (`Validator.validate_exact`).
-/

namespace CostJournal

namespace Decimal
variable {a b d : Decimal}

theorem sameValue_iff : a.sameValue b = true ↔ a.value = b.value := by
  rw [sameValue, beq_iff_eq, value, value, div_eq_div_iff (tenPow_cast_pos _).ne' (tenPow_cast_pos _).ne']
  exact_mod_cast Iff.rfl

theorem IsPercentage.exists_value_eq (h : d.IsPercentage) :
    ∃ n : Int, 0 ≤ n ∧ n ≤ tenPow 6 ∧ d.value = n / tenPow 4 := by
  obtain ⟨n, hn⟩ := h.places
  have hunit := tenPow_cast_pos 4
  refine ⟨n, ?_, ?_, (eq_div_iff hunit.ne').mpr hn⟩
  · have := mul_nonneg h.nonneg hunit.le
    rw [hn] at this
    exact_mod_cast this
  · have := mul_le_mul_of_nonneg_right h.le_hundred hunit.le
    rw [hn] at this
    have hcast : (n : ℚ) ≤ (tenPow 6 : Int) := this.trans_eq (by norm_num [tenPow])
    exact_mod_cast hcast

end Decimal

open Decimal

namespace Discount
variable {observed expected tolerance difference : Decimal} {x : ℚ} {n : Int}

/-- The percentage is near the expected one, and is zero when none is expected. -/
def IsExpected (x expected tolerance : ℚ) : Prop := |x - expected| ≤ tolerance ∧ ¬ (expected = 0 ∧ x ≠ 0)

theorem add_places {d : Int} (hd : expected.value = d / tenPow 4) (t : Int) :
    expected.value + t / tenPow 4 = (d + t : Int) / tenPow 4 := by
  rw [hd, ← add_div, ← Int.cast_add]

namespace KeepsSides

theorem margin_pos : 0 < margin := by
  rw [margin]
  exact one_div_pos.mpr (tenPow_cast_pos 26)

theorem le_iff (h : KeepsSides x observed) (hn : |n| ≤ 2 * tenPow 6) :
    observed.value ≤ n / tenPow 4 ↔ x ≤ n / tenPow 4 := by
  refine ⟨fun hle => ?_, h.le n hn⟩
  by_contra hlt
  have := h.gt n hn (lt_of_not_ge hlt)
  have := margin_pos
  linarith

theorem ge_iff (h : KeepsSides x observed) (hn : |n| ≤ 2 * tenPow 6) :
    n / tenPow 4 ≤ observed.value ↔ n / tenPow 4 ≤ x := by
  refine ⟨fun hle => ?_, h.ge n hn⟩
  by_contra hlt
  have := h.lt n hn (lt_of_not_ge hlt)
  have := margin_pos
  linarith

theorem eq_iff (h : KeepsSides x observed) (hn : |n| ≤ 2 * tenPow 6) :
    observed.value = n / tenPow 4 ↔ x = n / tenPow 4 := by
  rw [le_antisymm_iff, h.le_iff hn, h.ge_iff hn, ← le_antisymm_iff]

theorem isZero_iff (h : KeepsSides x observed) : observed.isZero = true ↔ x = 0 := by
  have hzero := h.eq_iff (n := 0) (by decide)
  rwa [Int.cast_zero, zero_div, ← Decimal.isZero_iff] at hzero

section
variable {d t : Int} (h : KeepsSides x observed) (hdifference : RoundsTo (observed.value - expected.value) difference)
  (hd : expected.value = d / tenPow 4) (hsum : |d + t| ≤ 2 * tenPow 6) (ht : |t| ≤ 2 * tenPow 6)
include h hdifference hd hsum ht

theorem difference_le_iff : difference.value ≤ t / tenPow 4 ↔ x ≤ expected.value + t / tenPow 4 := by
  have hend := add_places hd t
  rw [hend]
  constructor
  · intro hle
    by_contra hlt
    have hgt := h.gt _ hsum (lt_of_not_ge hlt)
    obtain ⟨e, he⟩ := exists_value_eq (t * tenPow 22 + 1) 26 (natAbs_scaled_lt ht (by decide)) (by decide)
    rw [div_tenPow_add t 1 4, Int.cast_one, ← margin] at he
    have := hdifference.le_value e (by linarith)
    have := margin_pos
    linarith
  · intro hle
    have hle := h.le _ hsum hle
    obtain ⟨e, he⟩ := exists_value_eq t 4 (natAbs_lt_of_abs_le ht) (by decide)
    exact he ▸ hdifference.value_le e (by linarith)

theorem le_difference_iff : t / tenPow 4 ≤ difference.value ↔ expected.value + t / tenPow 4 ≤ x := by
  have hend := add_places hd t
  rw [hend]
  constructor
  · intro hle
    by_contra hlt
    have hgt := h.lt _ hsum (lt_of_not_ge hlt)
    obtain ⟨e, he⟩ := exists_value_eq (t * tenPow 22 + -1) 26 (natAbs_scaled_lt ht (by decide)) (by decide)
    rw [div_tenPow_add t (-1) 4, Int.cast_neg, Int.cast_one, neg_div, ← margin] at he
    have := hdifference.value_le e (by linarith)
    have := margin_pos
    linarith
  · intro hle
    have hle := h.ge _ hsum hle
    obtain ⟨e, he⟩ := exists_value_eq t 4 (natAbs_lt_of_abs_le ht) (by decide)
    exact he ▸ hdifference.le_value e (by linarith)

end

theorem exists_difference (h : KeepsSides x observed) (hexpected : expected.IsPercentage)
    (htolerance : tolerance.IsPercentage) :
    ∃ difference, observed.sub expected = .ok difference ∧
      (difference.abs ≤ tolerance ↔ |x - expected.value| ≤ tolerance.value) := by
  have hle : |observed.value - expected.value| ≤ (2 * tenPow 21 : Nat) := by
    have htriangle := abs_sub observed.value expected.value
    have hexpected' : |expected.value| ≤ tenPow 21 := by
      rw [abs_of_nonneg hexpected.nonneg]
      exact hexpected.le_hundred.trans (by norm_num [tenPow])
    have := h.bounded
    push_cast
    linarith
  obtain ⟨difference, hsub, hrounds⟩ := exists_sub (by decide) hle
  refine ⟨difference, hsub, ?_⟩
  obtain ⟨d, hd, hd', hvalue⟩ := hexpected.exists_value_eq
  obtain ⟨t, ht, ht', hend⟩ := htolerance.exists_value_eq
  have hbound : ∀ n : Int, -tenPow 6 ≤ n → n ≤ 2 * tenPow 6 → |n| ≤ 2 * tenPow 6 := fun n hlow hhigh =>
    abs_le.mpr ⟨by omega, hhigh⟩
  rw [← value_le_value_iff, value_abs, abs_le, abs_le, hend, ← neg_div, ← Int.cast_neg,
    h.le_difference_iff hrounds hvalue (hbound _ (by omega) (by omega)) (hbound _ (by omega) (by omega)),
    h.difference_le_iff hrounds hvalue (hbound _ (by omega) (by omega)) (hbound _ (by omega) (by omega)),
    le_sub_iff_add_le', sub_le_iff_le_add']

theorem exists_isWithinTolerance (h : KeepsSides x observed) (hexpected : expected.IsPercentage)
    (htolerance : tolerance.IsPercentage) :
    ∃ accepted, isWithinTolerance observed expected tolerance = .ok accepted ∧
      (accepted = true ↔ IsExpected x expected.value tolerance.value) := by
  unfold isWithinTolerance IsExpected
  rw [← Decimal.isZero_iff, Ne, ← h.isZero_iff]
  by_cases hnone : (expected.isZero && !observed.isZero) = true
  · rw [if_pos hnone]
    rw [Bool.and_eq_true, Bool.not_eq_true', ← Bool.not_eq_true] at hnone
    exact ⟨false, rfl, iff_of_false Bool.false_ne_true fun h => h.2 hnone⟩
  · obtain ⟨difference, hsub, hiff⟩ := h.exists_difference hexpected htolerance
    rw [if_neg hnone, hsub]
    rw [Bool.and_eq_true, Bool.not_eq_true', ← Bool.not_eq_true] at hnone
    refine ⟨_, rfl, ?_⟩
    rw [decide_eq_true_iff, hiff, and_iff_left hnone]

theorem halfEven_eq_iff (h : KeepsSides x observed) (hn : 0 ≤ n) (hn' : n ≤ 100) :
    halfEven observed.value = n ↔ halfEven x = n := by
  have hlow : ((n * 10000 - 5000 : Int) / tenPow 4 : ℚ) = n + -(1 / 2) := by
    norm_num [tenPow]
    ring
  have hhigh : ((n * 10000 + 5000 : Int) / tenPow 4 : ℚ) = n + 1 / 2 := by
    norm_num [tenPow]
    ring
  have hsix : tenPow 6 = 1000000 := rfl
  have hlow' : |n * 10000 - 5000| ≤ 2 * tenPow 6 := abs_le.mpr ⟨by omega, by omega⟩
  have hhigh' : |n * 10000 + 5000| ≤ 2 * tenPow 6 := abs_le.mpr ⟨by omega, by omega⟩
  have hwithin : ∀ y : ℚ, |y - n| < 1 / 2 ↔ ¬ y ≤ n + -(1 / 2) ∧ ¬ n + 1 / 2 ≤ y := fun y => by
    rw [abs_lt, not_le, not_le, lt_sub_iff_add_lt', sub_lt_iff_lt_add']
  have hhalf : ∀ y : ℚ, |y - n| = 1 / 2 ↔ y = n + 1 / 2 ∨ y = n + -(1 / 2) := fun y => by
    rw [abs_eq (by norm_num), sub_eq_iff_eq_add', sub_eq_iff_eq_add']
  rw [CostJournal.halfEven_eq_iff, CostJournal.halfEven_eq_iff, hwithin, hwithin, hhalf, hhalf, ← hlow, ← hhigh,
    h.le_iff hlow', h.ge_iff hhigh', h.eq_iff hlow', h.eq_iff hhigh']

theorem sameValue_roundTo_iff (h : KeepsSides x observed) (hexpected : expected.IsPercentage) (hs : 0 ≤ maxScale) :
    (observed.roundTo 0 hs).sameValue expected = true ↔ (halfEven x : ℚ) = expected.value := by
  have hwhole : ∀ k : Int, (k : ℚ) = expected.value → 0 ≤ k ∧ k ≤ 100 := fun k hk =>
    ⟨by exact_mod_cast hk ▸ hexpected.nonneg, by exact_mod_cast hk ▸ hexpected.le_hundred⟩
  rw [sameValue_iff, value_roundTo, tenPow_zero, Nat.cast_one, mul_one, div_one]
  constructor
  · intro heq
    obtain ⟨hlow, hhigh⟩ := hwhole _ heq
    rw [(h.halfEven_eq_iff hlow hhigh).mp rfl, heq]
  · intro heq
    obtain ⟨hlow, hhigh⟩ := hwhole _ heq
    rw [(h.halfEven_eq_iff hlow hhigh).mpr rfl, heq]

end KeepsSides

end Discount

open Discount

namespace Validator
variable {v : Validator} {expected amount tolerance : Decimal} {service : String} {m : AccountMetrics}

/-- The validator compares a percentage with the expected one, up to a tolerance. -/
def HasTolerance (v : Validator) : Prop := v = ofAmount ∨ v = ofUsage

/-- The percentage that a validator with a tolerance compares. -/
def observed (v : Validator) (amount : Decimal) (service : String) (m : AccountMetrics) : Checked Decimal := do
  let total ← if v = ofUsage then (m.amount .usage service).add (m.amount .recurring service) else .ok amount
  percentage (m.amount .providerDiscount service) total

theorem validate_returns_iff (hv : v.HasTolerance) {accepted : Bool} :
    (v.validate expected amount service m tolerance).Returns accepted ↔
      ∃ d, v.observed amount service m = .ok d ∧ isWithinTolerance d expected tolerance = .ok accepted := by
  unfold observed validate
  rcases hv with rfl | rfl
  · rw [if_neg (by decide)]
    simp only [Billing.returns_bind, Billing.returns_liftM]
    rfl
  · rw [if_pos rfl]
    simp only [Billing.returns_bind, Billing.returns_liftM, bind_eq_ok]
    constructor
    · rintro ⟨total, htotal, d, hd, h⟩
      exact ⟨d, ⟨total, htotal, hd⟩, h⟩
    · rintro ⟨d, ⟨total, htotal, hd⟩, h⟩
      exact ⟨total, htotal, d, hd, h⟩

/-- The amount of the support product, zero without one. -/
def supportAmount (m : AccountMetrics) : Decimal := (m.services .support).values.headD .zero

/-- The verdict of a validator in rational numbers. -/
def AcceptsExactly (v : Validator) (expected amount : Decimal) (service : String) (m : AccountMetrics)
    (tolerance : Decimal) : Prop :=
  let of (metric : Metric) : ℚ := (m.amount metric service).value
  match v with
  | acceptAll => True
  | ofAmount => IsExpected (exactPercentage (of .providerDiscount) amount.value) expected.value tolerance.value
  | ofUsage =>
    IsExpected (exactPercentage (of .providerDiscount) (of .usage + of .recurring)) expected.value tolerance.value
  | supportRefund => (halfEven (exactPercentage (of .refund) (supportAmount m).value) : ℚ) = expected.value
  | supportDiscount => (halfEven (exactPercentage (of .providerDiscount) (supportAmount m).value) : ℚ) = expected.value

theorem singleSupportAmount_eq_ok (h : (m.services .support).keys.length ≤ 1) :
    singleSupportAmount m = .ok (supportAmount m) := by
  unfold singleSupportAmount supportAmount SortedMap.values
  unfold SortedMap.keys at h
  match hentries : (m.services .support).entries with
  | [] => rfl
  | [_] => rfl
  | _ :: _ :: _ => simp [hentries] at h

section
variable (hmetrics : ∀ metric, ∀ d ∈ (m.services metric).values, d.IsAmount)
include hmetrics

theorem isAmount_amount (metric : Metric) (service : String) : (m.amount metric service).IsAmount := by
  unfold AccountMetrics.amount
  match hget : (m.services metric).get? service with
  | none => exact isAmount_zero
  | some d => exact hmetrics metric d (List.mem_map.mpr ⟨_, SortedMap.mem_entries.mpr hget, rfl⟩)

theorem isAmount_supportAmount : (supportAmount m).IsAmount := by
  unfold supportAmount
  match hvalues : (m.services .support).values with
  | [] => exact isAmount_zero
  | d :: _ => exact hmetrics .support d (hvalues ▸ List.mem_cons_self)

theorem exists_usageTotal (service : String) : ∃ total,
    (m.amount .usage service).add (m.amount .recurring service) = .ok total ∧
      total.value = (m.amount .usage service).value + (m.amount .recurring service).value ∧
      total.HasPlaces 10 ∧ |total.value| ≤ 2 * tenPow 9 := by
  have husage := isAmount_amount hmetrics .usage service
  have hrecurring := isAmount_amount hmetrics .recurring service
  obtain ⟨u, hu⟩ := husage.places
  obtain ⟨r, hr⟩ := hrecurring.places
  have hsum : ((m.amount .usage service).value + (m.amount .recurring service).value) * tenPow 10 = (u + r : Int) := by
    rw [add_mul, hu, hr, Int.cast_add]
  have hle : |(m.amount .usage service).value + (m.amount .recurring service).value| ≤ (2 * tenPow 9 : Nat) := by
    have := abs_add_le (m.amount .usage service).value (m.amount .recurring service).value
    have := husage.abs_lt
    have := hrecurring.abs_lt
    push_cast
    linarith
  have hfits : (u + r).natAbs < coefficientLimit := by
    have hunits := abs_le_of_units _ hsum hle
    rw [Int.abs_eq_natAbs] at hunits
    have hunits : (u + r).natAbs ≤ 2 * tenPow 9 * tenPow 10 := by exact_mod_cast hunits
    exact Nat.lt_of_le_of_lt hunits (by decide)
  obtain ⟨e, he⟩ := exists_value_eq (u + r) 10 hfits (by decide)
  rw [← hsum, mul_div_cancel_right₀ _ (tenPow_cast_pos 10).ne'] at he
  obtain ⟨total, htotal, hrounds⟩ := exists_add (by decide) hle
  have hvalue : total.value = _ := he ▸ (he ▸ hrounds : RoundsTo e.value total).value_eq
  exact ⟨total, htotal, hvalue, ⟨_, hvalue ▸ hsum⟩, by exact_mod_cast hvalue ▸ hle⟩

theorem exists_matchesSupport (hexpected : expected.IsPercentage) (hsingle : (m.services .support).keys.length ≤ 1)
    (metric : Metric) (service : String) :
    ∃ accepted, (matchesSupport metric expected service m).Returns accepted ∧
      (accepted = true ↔
        (halfEven (exactPercentage (m.amount metric service).value (supportAmount m).value) : ℚ) = expected.value) := by
  have hsupport := isAmount_supportAmount hmetrics
  obtain ⟨observed, hobserved, hkeeps⟩ := exists_percentage (isAmount_amount hmetrics metric service)
    hsupport.places hsupport.abs_le
  refine ⟨_, ?_, hkeeps.sameValue_roundTo_iff hexpected (Nat.zero_le _)⟩
  unfold matchesSupport
  rw [Billing.returns_bind]
  refine ⟨supportAmount m, ?_, Billing.returns_bind.mpr ⟨observed, ?_, Billing.returns_pure.mpr rfl⟩⟩
  · exact Billing.returns_ofExcept.mpr (singleSupportAmount_eq_ok hsingle)
  · exact Billing.returns_liftM.mpr hobserved

end

theorem validate_exact (v : Validator) (service : String)
    (hmetrics : ∀ metric, ∀ d ∈ (m.services metric).values, d.IsAmount) (hamount : amount.IsAmount)
    (hexpected : expected.IsPercentage) (htolerance : tolerance.IsPercentage)
    (hsingle : v.IsOfSupport → (m.services .support).keys.length ≤ 1) :
    ∃ accepted, (v.validate expected amount service m tolerance).Returns accepted ∧
      (accepted = true ↔ v.AcceptsExactly expected amount service m tolerance) := by
  cases v with
  | acceptAll => exact ⟨true, Billing.returns_pure.mpr rfl, iff_of_true rfl trivial⟩
  | ofAmount =>
    obtain ⟨d, hd, hkeeps⟩ := exists_percentage (isAmount_amount hmetrics .providerDiscount service)
      hamount.places hamount.abs_le
    obtain ⟨accepted, haccepted, hiff⟩ := hkeeps.exists_isWithinTolerance hexpected htolerance
    exact ⟨accepted, (validate_returns_iff (.inl rfl)).mpr ⟨d, hd, haccepted⟩, hiff⟩
  | ofUsage =>
    obtain ⟨total, htotal, hvalue, hplaces, hle⟩ := exists_usageTotal hmetrics service
    obtain ⟨d, hd, hkeeps⟩ := exists_percentage (isAmount_amount hmetrics .providerDiscount service) hplaces hle
    rw [hvalue] at hkeeps
    obtain ⟨accepted, haccepted, hiff⟩ := hkeeps.exists_isWithinTolerance hexpected htolerance
    have hobserved : observed .ofUsage amount service m = .ok d := bind_eq_ok.mpr ⟨total, htotal, hd⟩
    exact ⟨accepted, (validate_returns_iff (.inr rfl)).mpr ⟨d, hobserved, haccepted⟩, hiff⟩
  | supportRefund => exact exists_matchesSupport hmetrics hexpected (hsingle (.inl rfl)) .refund service
  | supportDiscount => exact exists_matchesSupport hmetrics hexpected (hsingle (.inr rfl)) .providerDiscount service

/-- A discount of 0.2 on a usage of 3, which is six percent and two thirds, and a refund of 7.5 percent. -/
def thirds : AccountMetrics :=
  ((({} : AccountMetrics).set .usage (.ofList [("Amazon EC2", .ofNat 3)])).set .providerDiscount
    (.ofList [("Amazon EC2", ⟨true, 2, 1, by decide, by decide⟩)])).set .support
    (.ofList [("AWS Support (Business)", .ofNat 200)]) |>.set .refund
    (.ofList [("AWS Support (Business)", ⟨true, 150, 1, by decide, by decide⟩)])

/-- A third of a percent with four places, rounded down and up. -/
def belowThird : Decimal := ⟨false, 3333, 4, by decide, by decide⟩

def aboveThird : Decimal := ⟨false, 3334, 4, by decide, by decide⟩

theorem validate_exact_thirds :
    (∀ metric, ∀ d ∈ (thirds.services metric).values, d.IsAmount) ∧ Decimal.zero.IsAmount ∧
      (Decimal.ofNat 7).IsPercentage ∧ (Decimal.ofNat 8).IsPercentage ∧ belowThird.IsPercentage ∧
      aboveThird.IsPercentage ∧ (thirds.services .support).keys.length ≤ 1 ∧
    (ofUsage.validate (.ofNat 7) .zero "Amazon EC2" thirds aboveThird).Returns true ∧
      ofUsage.AcceptsExactly (.ofNat 7) .zero "Amazon EC2" thirds aboveThird ∧
    (ofUsage.validate (.ofNat 7) .zero "Amazon EC2" thirds belowThird).Returns false ∧
      ¬ ofUsage.AcceptsExactly (.ofNat 7) .zero "Amazon EC2" thirds belowThird ∧
    (supportRefund.validate (.ofNat 8) .zero "AWS Support (Business)" thirds belowThird).Returns true ∧
      supportRefund.AcceptsExactly (.ofNat 8) .zero "AWS Support (Business)" thirds belowThird := by
  have hmetrics : ∀ metric, ∀ d ∈ (thirds.services metric).values, d.IsAmount := by
    have hall : ∀ metric, ∀ d ∈ (thirds.services metric).values,
        d.scale ≤ 10 ∧ d.magnitude < tenPow 9 * tenPow d.scale := by
      intro metric
      cases metric <;> decide +kernel
    exact fun metric d hd => isAmount_of_scale_le (hall metric d hd).1 (hall metric d hd).2
  have hseven : (Decimal.ofNat 7).IsPercentage := isPercentage_of_scale_le (by decide) rfl (by decide)
  have height : (Decimal.ofNat 8).IsPercentage := isPercentage_of_scale_le (by decide) rfl (by decide)
  have hbelow : belowThird.IsPercentage := isPercentage_of_scale_le (by decide) rfl (by decide)
  have habove : aboveThird.IsPercentage := isPercentage_of_scale_le (by decide) rfl (by decide)
  have hsingle : (thirds.services .support).keys.length ≤ 1 := by decide +kernel
  have haccepts : (ofUsage.validate (.ofNat 7) .zero "Amazon EC2" thirds aboveThird).Returns true := by
    decide +kernel
  have hrejects : (ofUsage.validate (.ofNat 7) .zero "Amazon EC2" thirds belowThird).Returns false := by
    decide +kernel
  have hrefund : (supportRefund.validate (.ofNat 8) .zero "AWS Support (Business)" thirds belowThird).Returns true := by
    decide +kernel
  obtain ⟨_, h, hiff⟩ := validate_exact .ofUsage "Amazon EC2" hmetrics isAmount_zero hseven habove fun _ => hsingle
  obtain ⟨_, h', hiff'⟩ := validate_exact .ofUsage "Amazon EC2" hmetrics isAmount_zero hseven hbelow fun _ => hsingle
  obtain ⟨_, h'', hiff''⟩ := validate_exact .supportRefund "AWS Support (Business)" hmetrics isAmount_zero height hbelow
    fun _ => hsingle
  cases h.symm.trans haccepts
  cases h'.symm.trans hrejects
  cases h''.symm.trans hrefund
  exact ⟨hmetrics, isAmount_zero, hseven, height, hbelow, habove, hsingle, haccepts, hiff.mp rfl, hrejects,
    fun h => Bool.false_ne_true (hiff'.mpr h), hrefund, hiff''.mp rfl⟩

end Validator

end CostJournal
