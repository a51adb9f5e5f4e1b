import CostJournal.Proofs.Account.Lines
import CostJournal.Proofs.Decimal.Rounding
import CostJournal.Proofs.Invoices.StoredRates

/-!
# Amounts in the currency of the journal

Where all invoices have one base currency and pass the check, a line charges the amount converted at
the highest rate of the invoicing entity's own invoices (`chargesAs_of_build`). An entity that issued no
invoice has no rate, and its amounts stay as they are, also in a journal of another currency
(`unconverted_withoutEntity`).
-/

namespace CostJournal

/-- An amount times a rate, as decimals multiply, rounded to the places that are kept. -/
def convertedAt (rate amount : Decimal) : Checked Decimal :=
  (amount.mul rate).map (·.roundTo convertedScale convertedScale_le_maxScale)

/-- A product that fits is rounded once: half to even, from its exact value. -/
theorem convertedAt_of_fits {rate amount : Decimal}
    (hc : (amount.coefficient * rate.coefficient).natAbs < coefficientLimit)
    (hs : amount.scale + rate.scale ≤ maxScale) :
    ∃ x, convertedAt rate amount = .ok x ∧
      x.HasValue (roundInt (amount.coefficient * rate.coefficient * tenPow convertedScale)
        (tenPow (amount.scale + rate.scale))) convertedScale := by
  obtain ⟨product, hproduct, hvalue⟩ := Decimal.mul_eq_ok_of_fits hc hs
  refine ⟨_, by rw [convertedAt, hproduct]; rfl, ?_⟩
  exact Decimal.hasValue_roundTo_of_hasValue hvalue convertedScale _

theorem convertAmount_of_needsConversion {d : InvoiceEntityDetails} (h : d.needsConversion = true)
    (amount : Decimal) : convertAmount amount (some d) = convertedAt d.exchangeRate amount := by
  rw [convertAmount, if_pos h, convertedAt]
  cases amount.mul d.exchangeRate <;> rfl

namespace LineBuilder
variable {b : LineBuilder} {service : String} {amount : Decimal}

/-- The lines for an amount of a service, with or without an error, charge `converted`; there are none
when it runs out of decimals. -/
structure ChargesAs (b : LineBuilder) (service : String) (amount : Decimal) (converted : Checked Decimal) :
    Prop where
  valid : ∀ sku, b.validLine service amount sku = converted.map fun x => b.lineOf service x sku
  error : ∀ sku message, b.errorLine service amount sku message =
    converted.map fun x => (b.lineOf service x sku).withError message

theorem chargesAs_convertAmount (b : LineBuilder) (service : String) (amount : Decimal) :
    b.ChargesAs service amount (convertAmount amount (b.invoice? service)) := by
  refine ⟨fun sku => ?_, fun sku message => ?_⟩
  · rw [validLine]
    cases convertAmount amount (b.invoice? service) <;> rfl
  · rw [errorLine, validLine]
    cases convertAmount amount (b.invoice? service) <;> rfl

section
variable {summaries : List InvoiceSummary} {base currency : String}

/-- What the builder knows of an entity that issued an invoice. -/
theorem invoice?_of_build (hbuild : (OrganizationInvoices.build summaries currency).Returns b.invoices)
    (hcheck : b.invoices.checkPaymentCurrency currency = .ok ())
    (hissued : ∃ s ∈ summaries, s.invoicingEntity = b.invoiceEntity service) :
    ∃ last ∈ summaries, ∃ rate, b.invoice? service = some (last.details rate) ∧
      last.payment.currencyCode = currency ∧
      IsHighestRate (ownPaidIn summaries (b.invoiceEntity service) currency) rate := by
  obtain ⟨d, hd⟩ := Option.isSome_iff_exists.mp ((OrganizationInvoices.entity?_isSome_iff hbuild).mpr hissued)
  obtain ⟨last, rate, hlast, -, rfl⟩ := OrganizationInvoices.exists_last_of_entity? hbuild hd
  have hpaid := OrganizationInvoices.isPaidIn_of_checkPaymentCurrency hbuild hcheck hlast
  exact ⟨last, (mem_of_lastInvoice? hlast).1, rate, hd, beq_iff_eq.mp hpaid,
    OrganizationInvoices.isHighestRate_of_checkPaymentCurrency hbuild hcheck hd⟩

theorem invoice?_eq_none (hbuild : (OrganizationInvoices.build summaries currency).Returns b.invoices)
    (hissued : ∀ s ∈ summaries, s.invoicingEntity ≠ b.invoiceEntity service) :
    b.invoice? service = none := by
  rw [← Option.not_isSome_iff_eq_none]
  exact fun h => absurd ((OrganizationInvoices.entity?_isSome_iff hbuild).mp h) (by simpa using hissued)

/-- The amount of a service is charged as it is when the invoices are in their base currency or none is
of its entity, and else at the highest rate of the entity's invoices. -/
theorem chargesAs_of_build (hbuild : (OrganizationInvoices.build summaries currency).Returns b.invoices)
    (hcheck : b.invoices.checkPaymentCurrency currency = .ok ())
    (hbase : ∀ s ∈ summaries, s.base.currencyCode = base) (service : String) (amount : Decimal) :
    (base = currency ∨ (∀ s ∈ summaries, s.invoicingEntity ≠ b.invoiceEntity service) →
      b.ChargesAs service amount (.ok amount)) ∧
    (base ≠ currency → (∃ s ∈ summaries, s.invoicingEntity = b.invoiceEntity service) →
      ∃ rate, IsHighestRate (ownPaidIn summaries (b.invoiceEntity service) currency) rate ∧
        b.ChargesAs service amount (convertedAt rate amount) ∧
        ((amount.coefficient * rate.coefficient).natAbs < coefficientLimit →
          amount.scale + rate.scale ≤ maxScale →
          ∃ x, convertedAt rate amount = .ok x ∧
            x.HasValue (roundInt (amount.coefficient * rate.coefficient * tenPow convertedScale)
              (tenPow (amount.scale + rate.scale))) convertedScale)) := by
  have hcharges := b.chargesAs_convertAmount service amount
  constructor
  · intro hunconverted
    have hkept : ∀ d ∈ b.invoice? service, d.needsConversion = false := by
      intro d hd
      by_cases hissued : ∃ s ∈ summaries, s.invoicingEntity = b.invoiceEntity service
      · obtain ⟨last, hmem, rate, hinvoice, hpaid, -⟩ := invoice?_of_build hbuild hcheck hissued
        cases hinvoice.symm.trans hd
        rcases hunconverted with heq | hnone
        · simp [InvoiceEntityDetails.needsConversion, InvoiceSummary.details, hpaid, hbase last hmem, heq]
        · exact absurd hissued (by simpa using hnone)
      · rw [invoice?_eq_none hbuild (by simpa using hissued)] at hd
        cases hd
    rwa [convertAmount_of_not_needsConversion hkept] at hcharges
  · intro hne hissued
    obtain ⟨last, hmem, rate, hinvoice, hpaid, hhighest⟩ := invoice?_of_build hbuild hcheck hissued
    refine ⟨rate, hhighest, ?_, convertedAt_of_fits⟩
    have hneeds : (last.details rate).needsConversion = true := by
      simp [InvoiceEntityDetails.needsConversion, InvoiceSummary.details, hpaid, hbase last hmem,
        Ne.symm hne]
    rwa [hinvoice, convertAmount_of_needsConversion hneeds] at hcharges

end

/-- The lines of an account on which one service is known to be invoiced by one entity. -/
def ofEntity (service entity : String) (invoices : OrganizationInvoices) : LineBuilder where
  details := ⟨"AGR-1", "123456789012", .first, .last, "COM"⟩
  accountId := "210987654321"
  metrics := ({} : AccountMetrics).setInvoiceEntity service entity
  invoices := invoices

/-- Two invoices of one entity and one of another, all in euros. -/
def inEuros : List InvoiceSummary :=
  [.ofDollars "Amazon Web Services EMEA SARL" "EUR" "0.93" "93",
    .ofDollars "Amazon Web Services EMEA SARL" "EUR" "0.91" "91",
    .ofDollars "Amazon Web Services, Inc." "EUR" "0.95" "95"]

theorem chargesAs_of_build_inEuros :
    ∃ o, (OrganizationInvoices.build inEuros "EUR").Returns o ∧ o.checkPaymentCurrency "EUR" = .ok () ∧
      (∀ s ∈ inEuros, s.base.currencyCode = "USD") ∧ "USD" ≠ "EUR" ∧
      ∃ rate,
        IsHighestRate (ownPaidIn inEuros "Amazon Web Services EMEA SARL" "EUR") rate ∧
        (ofEntity "Amazon EC2" "Amazon Web Services EMEA SARL" o).ChargesAs "Amazon EC2" (.ofNat 100)
          (convertedAt rate (.ofNat 100)) := by
  have hvalue : (OrganizationInvoices.build inEuros "EUR").value?.map (·.checkPaymentCurrency "EUR") =
      some (.ok ()) := by
    decide +kernel
  obtain ⟨o, ho, hcheck⟩ := Option.map_eq_some_iff.mp hvalue
  have ho := Billing.value?_eq_some.mp ho
  have hbase : ∀ s ∈ inEuros, s.base.currencyCode = "USD" := by decide
  have hissued : ∃ s ∈ inEuros, s.invoicingEntity = "Amazon Web Services EMEA SARL" :=
    ⟨_, List.mem_cons_self, rfl⟩
  obtain ⟨rate, hhighest, hcharges, -⟩ :=
    (chargesAs_of_build (b := ofEntity "Amazon EC2" "Amazon Web Services EMEA SARL" o) ho hcheck hbase
      "Amazon EC2" (.ofNat 100)).2 (by decide) hissued
  exact ⟨o, ho, hcheck, hbase, by decide, rate, hhighest, hcharges⟩

/-- A service that no entity is known to invoice is charged in dollars in a journal of euros, though
the invoices in euros have a highest rate. -/
theorem unconverted_withoutEntity :
    ∃ o rate converted l, (OrganizationInvoices.build inEuros "EUR").Returns o ∧
      o.checkPaymentCurrency "EUR" = .ok () ∧ (∀ s ∈ inEuros, s.base.currencyCode = "USD") ∧
      ownPaidIn inEuros ((ofEntity "Amazon EC2" "" o).invoiceEntity "Amazon S3") "EUR" = [] ∧
      IsHighestRate (paidIn inEuros "EUR") rate ∧ convertedAt rate (.ofNat 100) = .ok converted ∧
      (ofEntity "Amazon EC2" "" o).validLine "Amazon S3" (.ofNat 100) "AWS Usage" = .ok l ∧
      l.isValid ∧ l.amount = .ofNat 100 ∧ converted.sameValue (.ofNat 95) ∧
      ¬ l.amount.sameValue converted := by
  have hvalue : (OrganizationInvoices.build inEuros "EUR").value?.map (fun o =>
      (o.checkPaymentCurrency "EUR",
        (ofEntity "Amazon EC2" "" o).validLine "Amazon S3" (.ofNat 100) "AWS Usage" |>.map fun l =>
          (l.isValid, l.amount))) = some (.ok (), .ok (true, .ofNat 100)) := by
    decide +kernel
  obtain ⟨o, ho, hrest⟩ := Option.map_eq_some_iff.mp hvalue
  obtain ⟨hcheck, hline⟩ := Prod.mk.inj hrest
  have hrate : (resolveExchangeRate inEuros "" "EUR").map (fun rate =>
      (convertedAt rate (.ofNat 100)).map fun x =>
        (x.sameValue (.ofNat 95), Decimal.sameValue (.ofNat 100) x)) = .ok (.ok (true, false)) := by
    decide +kernel
  obtain ⟨l, hl, hl'⟩ := map_eq_ok.mp hline
  obtain ⟨hvalid, hamount⟩ := Prod.mk.inj hl'
  obtain ⟨rate, hrate, hconverted⟩ := map_eq_ok.mp hrate
  obtain ⟨x, hx, hsame⟩ := map_eq_ok.mp hconverted
  obtain ⟨hconverted, hdiffers⟩ := Prod.mk.inj hsame
  have hnone : ownPaidIn inEuros "" "EUR" = [] := by decide
  have hhighest : IsHighestRate (paidIn inEuros "EUR") rate := by
    rcases resolveExchangeRate_eq_ok hrate with hown | ⟨-, hall⟩ | ⟨hnil, -⟩
    · exact absurd hnone hown.ne_nil
    · exact hall
    · exact absurd hnil (by decide)
  exact ⟨o, rate, x, l, Billing.value?_eq_some.mp ho, hcheck, by decide, hnone, hhighest, hx, hl, hvalid,
    hamount, hconverted, by rw [hamount, hdiffers]; exact Bool.false_ne_true⟩

end LineBuilder

end CostJournal
