import CostJournal.Proofs.Discount.Verdicts

/-!
# Tiers of a family

Usage, savings plans and upfront fees each have a plain SKU and one with incentives, with processors that differ in the
expected discount alone (`Processor.AreTiers`). Both compare one observed percentage, so where the expected discounts
are more than two tolerances apart, no service is near both (`abs_sub_expected_le`), and no line of the one names a
service of the other: `Processor.tiers_disjoint`. The amounts may be any, as a subtraction is rounded by less than the
last place of the settings.
-/

namespace CostJournal

open Decimal

namespace Discount
variable {observed expected expected' tolerance : Decimal}

/-- What is within the tolerance as a rounded difference is within it up to half of a fourth place. -/
theorem abs_sub_lt_of_isWithinTolerance (htolerance : tolerance.IsPercentage)
    (h : isWithinTolerance observed expected tolerance = .ok true) :
    |observed.value - expected.value| < tolerance.value + 1 / (2 * tenPow 4) := by
  unfold isWithinTolerance at h
  split at h
  next => cases h
  next =>
    obtain ⟨difference, hsub, h⟩ := bind_eq_ok.mp h
    have hrounds := roundsTo_sub hsub
    have hle := of_decide_eq_true (pure_eq_ok.mp h)
    rw [← value_le_value_iff, value_abs, abs_le] at hle
    obtain ⟨t, ht, ht', hend⟩ := htolerance.exists_value_eq
    -- beyond the tolerance there is a decimal that is not passed
    have hfits : ∀ z : Int, |z| ≤ 10 * t + 5 → z.natAbs < coefficientLimit := fun z hz => by
      have hlimit : 10 * tenPow 6 + 5 < coefficientLimit := by decide
      have := abs_le.mp hz
      omega
    have hbeyond : ((10 * t + 5 : Int) / tenPow 5 : ℚ) = tolerance.value + 1 / (2 * tenPow 4) := by
      rw [hend]
      norm_num [tenPow]
      ring
    obtain ⟨e, he⟩ := exists_value_eq (10 * t + 5) 5 (hfits _ (abs_of_nonneg (by omega)).le) (by decide)
    obtain ⟨e', he'⟩ := exists_value_eq (-(10 * t + 5)) 5
      (hfits _ (by rw [abs_neg, abs_of_nonneg (by omega)])) (by decide)
    rw [hbeyond] at he
    rw [Int.cast_neg, neg_div, hbeyond] at he'
    have hstep : (0 : ℚ) < 1 / (2 * tenPow 4) := by norm_num [tenPow]
    rw [abs_lt]
    constructor
    · by_contra hle'
      have := hrounds.value_le e' (by linarith)
      linarith
    · by_contra hle'
      have := hrounds.le_value e (by linarith)
      linarith

theorem abs_sub_expected_le (htolerance : tolerance.IsPercentage) (hexpected : expected.IsPercentage)
    (hexpected' : expected'.IsPercentage) (h : isWithinTolerance observed expected tolerance = .ok true)
    (h' : isWithinTolerance observed expected' tolerance = .ok true) :
    |expected.value - expected'.value| ≤ 2 * tolerance.value := by
  have hnear := abs_sub_lt_of_isWithinTolerance htolerance h
  have hnear' := abs_sub_lt_of_isWithinTolerance htolerance h'
  have hlt : |expected.value - expected'.value| < 2 * tolerance.value + 1 / tenPow 4 := by
    have htriangle := abs_sub_le expected.value observed.value expected'.value
    have hhalves : (1 / (2 * tenPow 4) + 1 / (2 * tenPow 4) : ℚ) = 1 / tenPow 4 := by norm_num [tenPow]
    rw [abs_sub_comm expected.value observed.value] at htriangle
    linarith
  obtain ⟨d, -, -, hd⟩ := hexpected.exists_value_eq
  obtain ⟨d', -, -, hd'⟩ := hexpected'.exists_value_eq
  obtain ⟨t, -, -, ht⟩ := htolerance.exists_value_eq
  have hunit := tenPow_cast_pos 4
  -- all three are whole numbers of the fourth place
  rw [hd, hd', ht, ← sub_div, ← mul_div_assoc, abs_div, Nat.abs_cast] at hlt ⊢
  rw [← add_div, div_lt_div_iff_of_pos_right hunit] at hlt
  rw [div_le_div_iff_of_pos_right hunit]
  have hlt : |d - d'| < 2 * t + 1 := by exact_mod_cast hlt
  exact_mod_cast Int.lt_add_one_iff.mp hlt

end Discount

/-- All discounts and the tolerance are percentages with at most four places. -/
structure BillingSettings.HasPercentages (s : BillingSettings) : Prop where
  tolerance : s.tolerance.IsPercentage
  discounts : ∀ e ∈ s.discounts.named, e.2.IsPercentage

namespace Processor
variable {s : BillingSettings} {p p' : Processor} {b : LineBuilder} {sku sku' : String} {ls ls' : List JournalLine}

/-- The SKUs of the families that have two tiers, the plain one and the one with incentives. -/
def tierSkus : List (String × String) :=
  [("AWS Usage", "AWS Usage incentivate"),
    ("Saving Plans Recurring Fee", "Saving Plans Recurring Fee incentivate"), ("Upfront", "Upfront incentivate")]

/-- Two processors that expect different discounts of the same services. -/
structure AreTiers (s : BillingSettings) (p p' : Processor) : Prop where
  metric : p'.metric = p.metric
  validator : p'.validator = p.validator
  hasTolerance : p.validator.HasTolerance
  tolerance : p.tolerance = s.tolerance
  tolerance' : p'.tolerance = s.tolerance
  discount : p.discount ∈ s.discounts.named.map (·.2)
  discount' : p'.discount ∈ s.discounts.named.map (·.2)

theorem areTiers_of_mem (hskus : (sku, sku') ∈ tierSkus) (hp : (table s).lookup sku = some p)
    (hp' : (table s).lookup sku' = some p') : AreTiers s p p' := by
  have hskus : sku = "AWS Usage" ∧ sku' = "AWS Usage incentivate" ∨
      sku = "Saving Plans Recurring Fee" ∧ sku' = "Saving Plans Recurring Fee incentivate" ∨
      sku = "Upfront" ∧ sku' = "Upfront incentivate" := by
    simpa [tierSkus] using hskus
  rcases hskus with ⟨rfl, rfl⟩ | ⟨rfl, rfl⟩ | ⟨rfl, rfl⟩
  · cases hp
    cases hp'
    exact ⟨rfl, rfl, .inr rfl, rfl, rfl, by simp [usage, Discounts.named], by simp [usage, Discounts.named]⟩
  · cases hp
    cases hp'
    exact ⟨rfl, rfl, .inl rfl, rfl, rfl, by simp [savingPlans, Discounts.named], by simp [savingPlans, Discounts.named]⟩
  · cases hp
    cases hp'
    exact ⟨rfl, rfl, .inr rfl, rfl, rfl, by simp [upfront, Discounts.named], by simp [upfront, Discounts.named]⟩

theorem AreTiers.not_accepts {m : AccountMetrics} {e : String × Decimal} (h : AreTiers s p p') (hs : s.HasPercentages)
    (hapart : 2 * s.tolerance.value < |p.discount.value - p'.discount.value|) (haccepts : p.accepts m e = true) :
    p'.accepts m e = false := by
  have hpercentage : ∀ d ∈ s.discounts.named.map (·.2), d.IsPercentage := by
    simpa using fun d name hd => hs.discounts (name, d) hd
  rw [Bool.eq_false_iff]
  intro haccepts'
  have hreturns := (accepts_iff.mp haccepts).2
  have hreturns' := (accepts_iff.mp haccepts').2
  rw [h.tolerance, Validator.validate_returns_iff h.hasTolerance] at hreturns
  rw [h.validator, h.tolerance', Validator.validate_returns_iff h.hasTolerance] at hreturns'
  obtain ⟨observed, hobserved, hwithin⟩ := hreturns
  obtain ⟨observed', hobserved', hwithin'⟩ := hreturns'
  cases hobserved.symm.trans hobserved'
  have hle := Discount.abs_sub_expected_le hs.tolerance (hpercentage _ h.discount) (hpercentage _ h.discount') hwithin
    hwithin'
  linarith

theorem AreTiers.disjoint (h : AreTiers s p p') (hs : s.HasPercentages)
    (hapart : 2 * s.tolerance.value < |p.discount.value - p'.discount.value|) (hls : (p.process b sku).Returns ls)
    (hls' : (p'.process b sku').Returns ls') : ∀ l ∈ ls, ∀ l' ∈ ls', l.serviceName ≠ l'.serviceName := by
  have hbilled : ∀ {p : Processor} {sku ls}, (p.process b sku).Returns ls → ∀ l ∈ ls,
      ∃ e ∈ (b.metrics.services p.metric).entries, p.accepts b.metrics e = true ∧ l.serviceName = e.1 := by
    intro p sku ls hls l hl
    obtain ⟨e, he, hline⟩ := exists_left_of_mem (process_returns hls).2 hl
    obtain ⟨hentry, haccepts⟩ := List.mem_filter.mp he
    obtain ⟨_, -, rfl⟩ := LineBuilder.validLine_eq_ok.mp hline
    exact ⟨e, hentry, haccepts, LineBuilder.serviceName_lineOf ..⟩
  intro l hl l' hl' hname
  obtain ⟨e, he, haccepts, hservice⟩ := hbilled hls l hl
  obtain ⟨e', he', haccepts', hservice'⟩ := hbilled hls' l' hl'
  -- both lines are of one entry of one family
  have heq : e' = e := by
    rw [h.metric] at he'
    have hkey : e'.1 = e.1 := by rw [← hservice, ← hservice', hname]
    have hvalue := SortedMap.mem_entries.mp he
    rw [← hkey, SortedMap.mem_entries.mp he'] at hvalue
    exact Prod.ext hkey (Option.some.inj hvalue)
  rw [heq, h.not_accepts hs hapart haccepts] at haccepts'
  exact Bool.false_ne_true haccepts'

theorem process_returns_of_itemLines {table : ProcessorTable} {item : SubscriptionLine}
    (hsku : item.sku? = some sku) (hp : table.lookup sku = some p) (hv : p.validator.HasTolerance)
    (h : itemLines table b item = .ok ls) : (p.process b sku).Returns ls := by
  cases itemBills_of_itemLines h with
  | noSku hsku' => cases hsku.symm.trans hsku'
  | noProcessor hsku' hp' =>
    cases hsku.symm.trans hsku'
    cases hp.symm.trans hp'
  | lines hsku' hp' hls =>
    cases hsku.symm.trans hsku'
    cases hp.symm.trans hp'
    exact hls
  | failure hsku' hp' hf =>
    cases hsku.symm.trans hsku'
    cases hp.symm.trans hp'
    -- only processors of support fail
    have hsupport := (isAmbiguous_of_process_fails hf).1.ofSupport
    rcases hv with hv | hv <;> simp [hv, Validator.IsOfSupport] at hsupport

theorem tiers_disjoint (hs : s.HasPercentages) (hskus : (sku, sku') ∈ tierSkus) (hp : (table s).lookup sku = some p)
    (hp' : (table s).lookup sku' = some p')
    (hapart : 2 * s.tolerance.value < |p.discount.value - p'.discount.value|) (b : LineBuilder) :
    (∀ ls ls', (p.process b sku).Returns ls → (p'.process b sku').Returns ls' →
      ∀ l ∈ ls, ∀ l' ∈ ls', l.serviceName ≠ l'.serviceName) ∧
    ∀ item item' : SubscriptionLine, item.sku? = some sku → item'.sku? = some sku' →
      ∀ ls ls', itemLines (table s) b item = .ok ls → itemLines (table s) b item' = .ok ls' →
        ∀ l ∈ ls, ∀ l' ∈ ls', l.serviceName ≠ l'.serviceName := by
  have htiers := areTiers_of_mem hskus hp hp'
  refine ⟨fun ls ls' => htiers.disjoint hs hapart, fun item item' hitem hitem' ls ls' hls hls' => ?_⟩
  have hreturns := process_returns_of_itemLines hitem hp htiers.hasTolerance hls
  have hreturns' := process_returns_of_itemLines hitem' hp' (htiers.validator.symm ▸ htiers.hasTolerance) hls'
  exact htiers.disjoint hs hapart hreturns hreturns'

/-- A service with the plain discount on its usage, and one with that for incentives. -/
def bothTiers : LineBuilder where
  details := ⟨"AGR-1", "123456789012", .first, .last, "COM"⟩
  accountId := "210987654321"
  metrics := (({} : AccountMetrics).set .usage (.ofList [("Amazon EC2", .hundred), ("Amazon S3", .hundred)])).set
    .providerDiscount (.ofList [("Amazon EC2", Discounts.standard.usage.neg),
      ("Amazon S3", Discounts.standard.usageIncentivate.neg)])
  invoices := {}

theorem tiers_disjoint_bothTiers :
    BillingSettings.HasPercentages {} ∧ ("AWS Usage", "AWS Usage incentivate") ∈ tierSkus ∧
    ∃ p p' ls ls', (table {}).lookup "AWS Usage" = some p ∧ (table {}).lookup "AWS Usage incentivate" = some p' ∧
      2 * (BillingSettings.tolerance {}).value < |p.discount.value - p'.discount.value| ∧
      (p.process bothTiers "AWS Usage").Returns ls ∧ (p'.process bothTiers "AWS Usage incentivate").Returns ls' ∧
      ls.map (·.serviceName) = ["Amazon EC2"] ∧ ls'.map (·.serviceName) = ["Amazon S3"] ∧
      ∀ l ∈ ls, ∀ l' ∈ ls', l.serviceName ≠ l'.serviceName := by
  have hsettings : BillingSettings.HasPercentages {} := by
    have hall : ∀ e ∈ Discounts.standard.named, e.2.scale ≤ 4 ∧ e.2.negative = false ∧
        e.2.magnitude ≤ 100 * tenPow e.2.scale := by
      decide
    refine ⟨isPercentage_of_scale_le (by decide) rfl (by decide), fun e he => ?_⟩
    obtain ⟨hscale, hnegative, hmagnitude⟩ := hall e he
    exact isPercentage_of_scale_le hscale hnegative hmagnitude
  have hskus : ("AWS Usage", "AWS Usage incentivate") ∈ tierSkus := by decide
  have hapart : 2 * (BillingSettings.tolerance {}).value <
      |(usage (.ofNat 7) .one).discount.value - (usage (.ofNat 12) .one).discount.value| := by
    norm_num [usage, value, coefficient, Decimal.ofNat, Decimal.one, tenPow]
  have hvalue : ((usage (.ofNat 7) .one).process bothTiers "AWS Usage").value?.map
      (fun ls => ls.map (·.serviceName)) = some ["Amazon EC2"] := by
    decide +kernel
  have hvalue' : ((usage (.ofNat 12) .one).process bothTiers "AWS Usage incentivate").value?.map
      (fun ls => ls.map (·.serviceName)) = some ["Amazon S3"] := by
    decide +kernel
  obtain ⟨ls, hls, hnames⟩ := Option.map_eq_some_iff.mp hvalue
  obtain ⟨ls', hls', hnames'⟩ := Option.map_eq_some_iff.mp hvalue'
  have hls := Billing.value?_eq_some.mp hls
  have hls' := Billing.value?_eq_some.mp hls'
  obtain ⟨hdisjoint, -⟩ := tiers_disjoint hsettings hskus rfl rfl hapart bothTiers
  exact ⟨hsettings, hskus, _, _, ls, ls', rfl, rfl, hapart, hls, hls', hnames, hnames', hdisjoint ls ls' hls hls'⟩

end Processor

end CostJournal
