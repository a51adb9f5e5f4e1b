import CostJournal.Amount
import CostJournal.Invoice

/-!
# Invoices of an organization

The rate of an entity is the highest of its invoices in the wanted currency, else the highest of all
invoices in it, else zero. `OrganizationInvoices.build` gathers rates and totals, and
`checkPaymentCurrency` accepts them only when every entity is paid in the wanted currency.
-/

namespace CostJournal

namespace InvoiceSummary

/-- Zero when the invoice states no rate. -/
def exchangeRate (s : InvoiceSummary) : Except Failure Decimal :=
  match s.payment.rate with
  | some raw => Amount.ofReport raw
  | none => .ok .zero

def isPaidIn (currency : String) (s : InvoiceSummary) : Bool := s.payment.currencyCode == currency

end InvoiceSummary

/-- The higher of a rate and the highest one so far. -/
def higherRate (highest : Option Decimal) (rate : Decimal) : Option Decimal :=
  some (match highest with
    | some r => r.max rate
    | none => rate)

/-- The highest of some rates. -/
def highestRate (rates : List Decimal) : Option Decimal := rates.foldl higherRate none

/-- The rates of the invoices in a currency, with the entities that issued them. -/
def ratesIn (summaries : List InvoiceSummary) (currency : String) :
    Except Failure (List (String × Decimal)) :=
  (summaries.filter (·.isPaidIn currency)).mapM fun s => do return (s.invoicingEntity, ← s.exchangeRate)

/-- The rate from base to payment currency for an entity. -/
def resolveExchangeRate (summaries : List InvoiceSummary) (entity currency : String) :
    Except Failure Decimal := do
  let rates ← ratesIn summaries currency
  let own := highestRate ((rates.filter (·.1 == entity)).map (·.2))
  return (own.orElse fun _ => highestRate (rates.map (·.2))).getD .zero

namespace OrganizationInvoices

/-- Adds the amount of a text to a total. -/
def addText (total : Decimal) (raw : String) : Billing Failure Decimal := do
  let amount ← Billing.ofExcept (Amount.ofReport raw)
  total.add amount

/-- Takes one invoice in: the entity gets its ids and currencies, and the totals grow. -/
def addSummary (summaries : List InvoiceSummary) (currency : String) (o : OrganizationInvoices)
    (s : InvoiceSummary) : Billing Failure OrganizationInvoices := do
  let rate ← Billing.ofExcept (resolveExchangeRate summaries s.invoicingEntity currency)
  let entities := o.entities.insert s.invoicingEntity
    ⟨s.invoiceId, s.base.currencyCode, s.payment.currencyCode, rate⟩
  return {
    entities
    totalAmount := ← addText o.totalAmount s.payment.totalAmount
    totalAmountBeforeTax := ← addText o.totalAmountBeforeTax s.payment.totalAmountBeforeTax
    baseTotalAmount := ← addText o.baseTotalAmount s.base.totalAmount
    baseTotalAmountBeforeTax := ← addText o.baseTotalAmountBeforeTax s.base.totalAmountBeforeTax }

/-- The invoices of an organization, one after another. -/
def build (summaries : List InvoiceSummary) (currency : String) :
    Billing Failure OrganizationInvoices :=
  summaries.foldlM (addSummary summaries currency) {}

def entity? (o : OrganizationInvoices) (entity : String) : Option InvoiceEntityDetails :=
  o.entities.get? entity

/-- Every entity is paid in `currency`; otherwise the first in byte order that is not is named. -/
def checkPaymentCurrency (o : OrganizationInvoices) (currency : String) : Except Failure Unit :=
  match o.entities.entries.find? fun e => e.2.paymentCurrency != currency with
  | some (entity, details) => .error (.currencyMismatch currency entity details.paymentCurrency)
  | none => .ok ()

end OrganizationInvoices

end CostJournal
