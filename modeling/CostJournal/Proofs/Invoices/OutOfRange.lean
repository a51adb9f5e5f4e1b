import CostJournal.Invoicing
import CostJournal.Proofs.CutShort
import CostJournal.Proofs.Decimal.Range

/-!
# Where the totals of invoices run out of decimals

Each invoice adds to four totals, and these additions are all that the invoices of an organization can
run out of (`OrganizationInvoices.build_runsOut`).
-/

namespace CostJournal.OrganizationInvoices
variable {o : OrganizationInvoices} {s : InvoiceSummary} {summaries : List InvoiceSummary} {currency : String}
  {e : Overflow}

/-- The totals with the texts that an invoice adds to them, in the order of the additions. -/
def additions (o : OrganizationInvoices) (s : InvoiceSummary) : List (Decimal × String) :=
  [(o.totalAmount, s.payment.totalAmount), (o.totalAmountBeforeTax, s.payment.totalAmountBeforeTax),
    (o.baseTotalAmount, s.base.totalAmount), (o.baseTotalAmountBeforeTax, s.base.totalAmountBeforeTax)]

/-- The total and the amount of the text are out of range together. -/
def AdditionRunsOut (a : Decimal × String) : Prop :=
  ∃ amount, Amount.ofReport a.2 = .ok amount ∧ OutOfRange (a.1.value + amount.value)

/-- The rate of the invoice is found, and one of its additions is out of range. -/
structure SummaryRunsOut (summaries : List InvoiceSummary) (currency : String) (o : OrganizationInvoices)
    (s : InvoiceSummary) : Prop where
  rate : ∃ rate, resolveExchangeRate summaries s.invoicingEntity currency = .ok rate
  addition : ∃ a, ComesTo (fun a => ∃ total, (addText a.1 a.2).Returns total) (o.additions s) a ∧
    AdditionRunsOut a

/-- Taking in the invoices comes to one with which a total is out of range. -/
def RunOut (summaries : List InvoiceSummary) (currency : String) : Prop :=
  ∃ before s after o, summaries = before ++ s :: after ∧
    (before.foldlM (addSummary summaries currency) {}).Returns o ∧ SummaryRunsOut summaries currency o s

theorem addText_runsOut {a : Decimal × String} :
    (addText a.1 a.2).RunsOut e ↔ e = .addition ∧ AdditionRunsOut a := by
  unfold addText AdditionRunsOut
  rw [Billing.runsOut_bind, or_iff_right Billing.runsOut_ofExcept, ← exists_and_left]
  refine exists_congr fun amount => ?_
  rw [Billing.returns_ofExcept, Billing.runsOut_liftM, Decimal.add_eq_error]
  exact and_left_comm

/-- Taking an invoice in runs out as its additions one after the other do. -/
theorem addSummary_runsOut_additions : (addSummary summaries currency o s).RunsOut e ↔
    (∃ rate, resolveExchangeRate summaries s.invoicingEntity currency = .ok rate) ∧
      ((o.additions s).mapM fun a => addText a.1 a.2).RunsOut e := by
  unfold addSummary additions
  simp only [List.mapM_cons, List.mapM_nil, Billing.runsOut_bind, Billing.runsOut_ofExcept,
    Billing.returns_ofExcept, Billing.runsOut_pure, and_false, exists_false, or_false, false_or,
    exists_and_right]

theorem addSummary_runsOut : (addSummary summaries currency o s).RunsOut e ↔
    e = .addition ∧ SummaryRunsOut summaries currency o s := by
  rw [addSummary_runsOut_additions, Billing.runsOut_mapM]
  simp only [addText_runsOut]
  constructor
  · rintro ⟨hrate, a, ha, rfl, hout⟩
    exact ⟨rfl, hrate, a, ha, hout⟩
  · rintro ⟨rfl, hrate, a, ha, hout⟩
    exact ⟨hrate, a, ha, rfl, hout⟩

theorem build_runsOut : (build summaries currency).RunsOut e ↔ e = .addition ∧ RunOut summaries currency := by
  unfold build RunOut
  simp only [Billing.runsOut_foldlM, addSummary_runsOut]
  constructor
  · rintro ⟨before, s, after, o, hsummaries, hbefore, rfl, hout⟩
    exact ⟨rfl, before, s, after, o, hsummaries, hbefore, hout⟩
  · rintro ⟨rfl, before, s, after, o, hsummaries, hbefore, hout⟩
    exact ⟨before, s, after, o, hsummaries, hbefore, rfl, hout⟩

end CostJournal.OrganizationInvoices
