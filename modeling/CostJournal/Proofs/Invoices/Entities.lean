import CostJournal.Invoicing
import CostJournal.Proofs.Returns
import CostJournal.Proofs.SortedMap

/-!
# The entities of an organization's invoices

An entity keeps one invoice, the last one it issued (`entity?_build`). So the check of currencies
sees the last invoice of each entity only: `checkPaymentCurrency_iff_last` gives the exact condition,
and `checkPaymentCurrency_replaced` invoices whose verdict depends on their order.
-/

namespace CostJournal

/-- The last invoice that an entity issued. -/
def lastInvoice? (summaries : List InvoiceSummary) (entity : String) : Option InvoiceSummary :=
  summaries.reverse.find? (·.invoicingEntity == entity)

section
variable {summaries : List InvoiceSummary} {entity : String} {s : InvoiceSummary}

theorem lastInvoice?_cons : lastInvoice? (s :: summaries) entity =
    (lastInvoice? summaries entity).or (if s.invoicingEntity = entity then some s else none) := by
  rw [lastInvoice?, List.reverse_cons, List.find?_append, List.find?_singleton]
  simp only [beq_iff_eq]
  rfl

theorem mem_of_lastInvoice? (h : lastInvoice? summaries entity = some s) :
    s ∈ summaries ∧ s.invoicingEntity = entity := by
  have hentity := List.find?_some (p := fun s : InvoiceSummary => s.invoicingEntity == entity) h
  exact ⟨List.mem_reverse.mp (List.mem_of_find?_eq_some h), beq_iff_eq.mp hentity⟩

theorem lastInvoice?_eq_none :
    lastInvoice? summaries entity = none ↔ ∀ s ∈ summaries, s.invoicingEntity ≠ entity := by
  simp [lastInvoice?, List.find?_eq_none]

theorem exists_lastInvoice? (h : s ∈ summaries) :
    ∃ last, lastInvoice? summaries s.invoicingEntity = some last := by
  rw [← Option.isSome_iff_exists, ← Option.ne_none_iff_isSome]
  exact fun hnone => lastInvoice?_eq_none.mp hnone s h rfl

end

/-- What is kept of an invoice beside the rate of its entity. -/
def InvoiceSummary.details (s : InvoiceSummary) (rate : Decimal) : InvoiceEntityDetails :=
  ⟨s.invoiceId, s.base.currencyCode, s.payment.currencyCode, rate⟩

/-- An invoice of an entity over 100 US dollars, to be paid in a currency at the rate that it states. -/
def InvoiceSummary.ofDollars (entity currency rate total : String) : InvoiceSummary :=
  ⟨"123456789012", entity ++ " " ++ currency, entity, ⟨currency, total, total, some rate⟩,
    ⟨"USD", "100", "100", none⟩⟩

namespace OrganizationInvoices
variable {summaries listed : List InvoiceSummary} {currency entity : String} {s : InvoiceSummary}
  {o o' : OrganizationInvoices} {d : InvoiceEntityDetails}

theorem addSummary_returns (h : (addSummary summaries currency o s).Returns o') :
    ∃ rate, resolveExchangeRate summaries s.invoicingEntity currency = .ok rate ∧
      ∀ entity, o'.entity? entity =
        if entity = s.invoicingEntity then some (s.details rate) else o.entity? entity := by
  obtain ⟨rate, hrate, h⟩ := Billing.returns_bind.mp h
  obtain ⟨_, _, h⟩ := Billing.returns_bind.mp h
  obtain ⟨_, _, h⟩ := Billing.returns_bind.mp h
  obtain ⟨_, _, h⟩ := Billing.returns_bind.mp h
  obtain ⟨_, _, h⟩ := Billing.returns_bind.mp h
  rw [← Billing.returns_pure.mp h]
  exact ⟨rate, Billing.returns_ofExcept.mp hrate, fun entity => SortedMap.get?_insert ..⟩

/-- An entity has what its last invoice says, and what it had before when it issued none. -/
theorem entity?_foldlM (h : (listed.foldlM (addSummary summaries currency) o).Returns o') :
    match lastInvoice? listed entity with
    | none => o'.entity? entity = o.entity? entity
    | some last => ∃ rate, resolveExchangeRate summaries entity currency = .ok rate ∧
        o'.entity? entity = some (last.details rate) := by
  induction listed generalizing o with
  | nil =>
    rw [← Billing.returns_pure.mp h]
    rfl
  | cons s listed ih =>
    rw [List.foldlM_cons] at h
    obtain ⟨o₁, hstep, h⟩ := Billing.returns_bind.mp h
    obtain ⟨rate, hrate, hentity⟩ := addSummary_returns hstep
    have hrest := ih h
    rw [lastInvoice?_cons]
    match hlast : lastInvoice? listed entity with
    | some last => simpa only [hlast, Option.some_or] using hrest
    | none =>
      simp only [hlast, hentity] at hrest
      by_cases hs : s.invoicingEntity = entity
      · subst hs
        rw [if_pos rfl] at hrest
        simpa using ⟨rate, hrate, hrest⟩
      · rw [if_neg (Ne.symm hs)] at hrest
        simpa [hs] using hrest

/-- An entity that issued invoices has what the last one says and the rate of the entity; others are
unknown. -/
theorem entity?_build (h : (build summaries currency).Returns o) (entity : String) :
    match lastInvoice? summaries entity with
    | none => o.entity? entity = none
    | some last => ∃ rate, resolveExchangeRate summaries entity currency = .ok rate ∧
        o.entity? entity = some (last.details rate) :=
  entity?_foldlM h

theorem entity?_of_last {last : InvoiceSummary} (h : (build summaries currency).Returns o)
    (hlast : lastInvoice? summaries entity = some last) :
    ∃ rate, resolveExchangeRate summaries entity currency = .ok rate ∧
      o.entity? entity = some (last.details rate) := by
  have hknown := entity?_build h entity
  rwa [hlast] at hknown

/-- What is stored of an entity is what its last invoice says, with the rate that is resolved for it. -/
theorem exists_last_of_entity? (h : (build summaries currency).Returns o) (hd : o.entity? entity = some d) :
    ∃ last rate, lastInvoice? summaries entity = some last ∧
      resolveExchangeRate summaries entity currency = .ok rate ∧ d = last.details rate := by
  have hknown := entity?_build h entity
  cases hlast : lastInvoice? summaries entity with
  | none =>
    rw [hlast] at hknown
    cases hknown.symm.trans hd
  | some last =>
    rw [hlast] at hknown
    obtain ⟨rate, hrate, hget⟩ := hknown
    exact ⟨last, rate, rfl, hrate, Option.some.inj (hd.symm.trans hget)⟩

theorem checkPaymentCurrency_eq_ok : o.checkPaymentCurrency currency = .ok () ↔
    ∀ entity d, o.entity? entity = some d → d.paymentCurrency = currency := by
  have hnone : o.checkPaymentCurrency currency = .ok () ↔
      (o.entities.entries.find? fun e => e.2.paymentCurrency != currency) = none := by
    unfold checkPaymentCurrency
    split
    next heq => simp [heq]
    next heq => simp [heq]
  rw [hnone, List.find?_eq_none]
  constructor
  · intro h entity d hd
    simpa using h (entity, d) (SortedMap.mem_entries.mpr hd)
  · intro h e he
    simpa using h e.1 e.2 (SortedMap.mem_entries.mp he)

theorem isPaidIn_of_checkPaymentCurrency {billed : String} {last : InvoiceSummary}
    (h : (build summaries billed).Returns o) (hcheck : o.checkPaymentCurrency currency = .ok ())
    (hlast : lastInvoice? summaries entity = some last) : last.isPaidIn currency := by
  obtain ⟨rate, -, hget⟩ := entity?_of_last h hlast
  exact beq_iff_eq.mpr (checkPaymentCurrency_eq_ok.mp hcheck entity _ hget)

theorem checkPaymentCurrency_of_isPaidIn {billed : String} (h : (build summaries billed).Returns o)
    (hall : ∀ entity last, lastInvoice? summaries entity = some last → last.isPaidIn currency) :
    o.checkPaymentCurrency currency = .ok () := by
  refine checkPaymentCurrency_eq_ok.mpr fun entity d hd => ?_
  obtain ⟨last, rate, hlast, -, rfl⟩ := exists_last_of_entity? h hd
  exact beq_iff_eq.mp (hall entity last hlast)

/-- The check accepts the invoices exactly when the last one of every entity is paid in the currency. -/
theorem checkPaymentCurrency_iff_last {billed : String} (h : (build summaries billed).Returns o)
    (currency : String) : o.checkPaymentCurrency currency = .ok () ↔
      ∀ entity last, lastInvoice? summaries entity = some last → last.isPaidIn currency :=
  ⟨fun hcheck _ _ hlast => isPaidIn_of_checkPaymentCurrency h hcheck hlast,
    checkPaymentCurrency_of_isPaidIn h⟩

/-- An entity that first wanted 100 US dollars and then 91 euros. -/
def replaced : List InvoiceSummary :=
  [.ofDollars "Amazon Web Services EMEA SARL" "USD" "1" "100",
    .ofDollars "Amazon Web Services EMEA SARL" "EUR" "0.91" "91"]

theorem checkPaymentCurrency_iff_last_replaced : ∃ o, (build replaced "EUR").Returns o ∧
    (o.checkPaymentCurrency "EUR" = .ok () ↔
      ∀ entity last, lastInvoice? replaced entity = some last → last.isPaidIn "EUR") := by
  have hvalue : (build replaced "EUR").value?.isSome := by decide +kernel
  obtain ⟨o, ho⟩ := Option.isSome_iff_exists.mp hvalue
  have ho := Billing.value?_eq_some.mp ho
  exact ⟨o, ho, checkPaymentCurrency_iff_last ho "EUR"⟩

/-- The invoices pass the check for euros though one is in dollars; in the other order they do not. -/
theorem checkPaymentCurrency_replaced :
    (∃ o, (build replaced "EUR").Returns o ∧ o.checkPaymentCurrency "EUR" = .ok () ∧
      ¬ ∀ s ∈ replaced, s.isPaidIn "EUR") ∧
    ∃ o, (build replaced.reverse "EUR").Returns o ∧ o.checkPaymentCurrency "EUR" ≠ .ok () := by
  have hpass : (build replaced "EUR").value?.map (·.checkPaymentCurrency "EUR") = some (.ok ()) := by
    decide +kernel
  have hfail : (build replaced.reverse "EUR").value?.map
      (fun o => decide (o.checkPaymentCurrency "EUR" = .ok ())) = some false := by
    decide +kernel
  obtain ⟨o, ho, hok⟩ := Option.map_eq_some_iff.mp hpass
  obtain ⟨o', ho', hnot⟩ := Option.map_eq_some_iff.mp hfail
  exact ⟨⟨o, Billing.value?_eq_some.mp ho, hok, by decide⟩, o', Billing.value?_eq_some.mp ho',
    of_decide_eq_false hnot⟩

/-- Where no entity issued invoices in two currencies, the check sees every invoice. -/
theorem checkPaymentCurrency_iff_forall {billed : String} (h : (build summaries billed).Returns o)
    (hone : ∀ s ∈ summaries, ∀ t ∈ summaries, s.invoicingEntity = t.invoicingEntity →
      s.payment.currencyCode = t.payment.currencyCode) (currency : String) :
    o.checkPaymentCurrency currency = .ok () ↔ ∀ s ∈ summaries, s.isPaidIn currency := by
  constructor
  · intro hcheck s hs
    obtain ⟨last, hlast⟩ := exists_lastInvoice? hs
    obtain ⟨hmem, hentity⟩ := mem_of_lastInvoice? hlast
    have hpaid := isPaidIn_of_checkPaymentCurrency h hcheck hlast
    rwa [InvoiceSummary.isPaidIn, hone last hmem s hs hentity] at hpaid
  · intro hall
    exact checkPaymentCurrency_of_isPaidIn h fun _ last hlast => hall last (mem_of_lastInvoice? hlast).1

end OrganizationInvoices

end CostJournal
