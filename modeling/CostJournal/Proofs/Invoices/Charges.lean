import CostJournal.Proofs.Decimal.Nearest
import CostJournal.Proofs.Invoices.Conversion

/-!
# Charges that a conversion keeps

A positive rate keeps every charge whose exact product is more than half a unit of the last place that is kept: the
product is rounded once to the places of a decimal and once more to those of an amount, and a half goes down both
times (`zero_lt_convertedAt_iff`). The rate of an entity is positive exactly when one of its own invoices states a
positive one (`zero_lt_amount_iff`). An invoice without a rate counts as one at zero, also for an entity that has no
other, and then its charges come to nothing (`unrated_notAboveZero`).
-/

namespace CostJournal

/-- What a product has to exceed to be kept: half of the last place of a converted amount, and half of the last place
that a decimal can have. -/
def keptFrom : ℚ := 1 / (2 * tenPow convertedScale) + 1 / (2 * tenPow maxScale)

theorem zero_lt_convertedAt_iff {rate amount converted : Decimal} (h : convertedAt rate amount = .ok converted) :
    .zero < converted ↔ keptFrom < amount.value * rate.value := by
  obtain ⟨product, hproduct, rfl⟩ := map_eq_ok.mp h
  -- half of the last place that is kept, in units of the last place of a decimal
  have hhalf : (1 / (2 * tenPow convertedScale) : ℚ) = (5 * tenPow 21 : Nat) / tenPow maxScale := by
    norm_num [tenPow, convertedScale, maxScale]
  have hkept : keptFrom = (((5 * tenPow 21 : Nat) : ℚ) + 1 / 2) / tenPow maxScale := by
    rw [keptFrom, hhalf, add_div, div_div]
  rw [Decimal.zero_lt_roundTo_iff, hhalf, hkept]
  exact Decimal.lt_value_mul_iff hproduct (by decide) (by decide)

namespace LineBuilder
variable {b : LineBuilder} {service sku : String} {amount : Decimal} {d : InvoiceEntityDetails} {l : JournalLine}

theorem zero_lt_amount_validLine (hd : b.invoice? service = some d) (hneeds : d.needsConversion = true)
    (h : b.validLine service amount sku = .ok l) :
    .zero < l.amount ↔ keptFrom < amount.value * d.exchangeRate.value := by
  obtain ⟨converted, hconverted, rfl⟩ := validLine_eq_ok.mp h
  rw [hd, convertAmount_of_needsConversion hneeds] at hconverted
  rw [amount_lineOf]
  exact zero_lt_convertedAt_iff hconverted

end LineBuilder

theorem IsHighestRate.lt_iff {invoices : List InvoiceSummary} {bound r : Decimal} (h : IsHighestRate invoices r) :
    bound < r ↔ ∃ s ∈ invoices, ∃ r', s.exchangeRate = .ok r' ∧ bound < r' := by
  constructor
  · intro hr
    obtain ⟨s, hs, hstated⟩ := h.stated
    exact ⟨s, hs, r, hstated, hr⟩
  · rintro ⟨s, hs, r', hstated, hr'⟩
    obtain ⟨_, hstated', hle⟩ := h.highest s hs
    cases hstated.symm.trans hstated'
    exact Decimal.value_lt_value_iff.mp
      (lt_of_lt_of_le (Decimal.value_lt_value_iff.mpr hr') (Decimal.value_le_value_iff.mpr hle))

namespace OrganizationInvoices

/-- Where the check passes, the rate of an entity that is converted is positive exactly when an invoice of its own
states a positive one, and a valid line of the entity is positive exactly when the product is one that is kept. -/
theorem zero_lt_amount_iff {summaries : List InvoiceSummary} {currency : String} {o : OrganizationInvoices}
    (hbuild : (build summaries currency).Returns o) (hcheck : o.checkPaymentCurrency currency = .ok ()) :
    ∀ entity d, o.entity? entity = some d → d.needsConversion = true →
      (.zero < d.exchangeRate ↔
        ∃ s ∈ ownPaidIn summaries entity currency, ∃ r, s.exchangeRate = .ok r ∧ .zero < r) ∧
      ∀ b : LineBuilder, b.invoices = o → ∀ service, b.invoiceEntity service = entity →
        ∀ amount sku l, b.validLine service amount sku = .ok l →
          (.zero < l.amount ↔ keptFrom < amount.value * d.exchangeRate.value) := by
  intro entity d hd hneeds
  refine ⟨(isHighestRate_of_checkPaymentCurrency hbuild hcheck hd).lt_iff, ?_⟩
  intro b hinvoices service hentity amount sku l hline
  have hinvoice : b.invoice? service = some d := by rw [LineBuilder.invoice?, hinvoices, hentity, hd]
  exact LineBuilder.zero_lt_amount_validLine hinvoice hneeds hline

/-- Two entities that are paid in euros, one of them without a rate. -/
def unrated : List InvoiceSummary :=
  [{ InvoiceSummary.ofDollars "Amazon Web Services, Inc." "EUR" "0" "92" with payment := ⟨"EUR", "92", "92", none⟩ },
    .ofDollars "Amazon Web Services EMEA SARL" "EUR" "0.91" "91"]

/-- What the check, the details of an entity and the line for a hundred dollars of it come to. -/
def billed (entity : String) : Option (Except Failure Unit × Option (Bool × Bool) × Checked (Bool × Bool)) :=
  (build unrated "EUR").value?.map fun o =>
    (o.checkPaymentCurrency "EUR",
      (o.entity? entity).map fun d => (d.needsConversion, decide (.zero < d.exchangeRate)),
      ((LineBuilder.ofEntity "Amazon EC2" entity o).validLine "Amazon EC2" .hundred "AWS Usage").map fun l =>
        (l.isValid, decide (.zero < l.amount)))

theorem exists_of_billed {entity : String} {converted positive valid kept : Bool}
    (h : billed entity = some (.ok (), some (converted, positive), .ok (valid, kept))) :
    ∃ o d l, (build unrated "EUR").Returns o ∧ o.checkPaymentCurrency "EUR" = .ok () ∧
      o.entity? entity = some d ∧ d.needsConversion = converted ∧ decide (.zero < d.exchangeRate) = positive ∧
      (LineBuilder.ofEntity "Amazon EC2" entity o).validLine "Amazon EC2" .hundred "AWS Usage" = .ok l ∧
      l.isValid = valid ∧ decide (.zero < l.amount) = kept := by
  obtain ⟨o, ho, h⟩ := Option.map_eq_some_iff.mp h
  obtain ⟨hcheck, h⟩ := Prod.mk.inj h
  obtain ⟨hd, hl⟩ := Prod.mk.inj h
  obtain ⟨d, hd, hd'⟩ := Option.map_eq_some_iff.mp hd
  obtain ⟨l, hl, hl'⟩ := map_eq_ok.mp hl
  obtain ⟨hconverted, hpositive⟩ := Prod.mk.inj hd'
  obtain ⟨hvalid, hkept⟩ := Prod.mk.inj hl'
  exact ⟨o, d, l, Billing.value?_eq_some.mp ho, hcheck, hd, hconverted, hpositive, hl, hvalid, hkept⟩

theorem zero_lt_amount_iff_rated :
    ∃ o d l, (build unrated "EUR").Returns o ∧ o.checkPaymentCurrency "EUR" = .ok () ∧
      o.entity? "Amazon Web Services EMEA SARL" = some d ∧ d.needsConversion = true ∧
      (∃ s ∈ ownPaidIn unrated "Amazon Web Services EMEA SARL" "EUR", ∃ r, s.exchangeRate = .ok r ∧ .zero < r) ∧
      (LineBuilder.ofEntity "Amazon EC2" "Amazon Web Services EMEA SARL" o).validLine "Amazon EC2" .hundred
        "AWS Usage" = .ok l ∧
      .zero < l.amount ∧ keptFrom < Decimal.hundred.value * d.exchangeRate.value := by
  have hbilled : billed "Amazon Web Services EMEA SARL" = some (.ok (), some (true, true), .ok (true, true)) := by
    decide +kernel
  obtain ⟨o, d, l, ho, hcheck, hd, hneeds, hrate, hl, -, hamount⟩ := exists_of_billed hbilled
  obtain ⟨hstated, hkept⟩ := zero_lt_amount_iff ho hcheck _ d hd hneeds
  have hamount := of_decide_eq_true hamount
  exact ⟨o, d, l, ho, hcheck, hd, hneeds, hstated.mp (of_decide_eq_true hrate), hl, hamount,
    (hkept (.ofEntity "Amazon EC2" "Amazon Web Services EMEA SARL" o) rfl "Amazon EC2" rfl _ _ l hl).mp
      hamount⟩

/-- A hundred dollars of an entity without a rate are billed by a valid line that is not above zero. -/
theorem unrated_notAboveZero :
    ∃ o d l, (build unrated "EUR").Returns o ∧ o.checkPaymentCurrency "EUR" = .ok () ∧
      o.entity? "Amazon Web Services, Inc." = some d ∧ d.needsConversion = true ∧ ¬ .zero < d.exchangeRate ∧
      (LineBuilder.ofEntity "Amazon EC2" "Amazon Web Services, Inc." o).validLine "Amazon EC2" .hundred
        "AWS Usage" = .ok l ∧
      l.isValid = true ∧ ¬ .zero < l.amount := by
  have hbilled : billed "Amazon Web Services, Inc." = some (.ok (), some (true, false), .ok (true, false)) := by
    decide +kernel
  obtain ⟨o, d, l, ho, hcheck, hd, hneeds, hrate, hl, hvalid, hamount⟩ := exists_of_billed hbilled
  exact ⟨o, d, l, ho, hcheck, hd, hneeds, of_decide_eq_false hrate, hl, hvalid, of_decide_eq_false hamount⟩

end OrganizationInvoices

end CostJournal
