import CostJournal.Invoicing
import CostJournal.Line
import CostJournal.Metrics

/-!
# Lines of an account

A line for a service names the invoice of the entity that invoices the service, and carries the
amount in the currency of that invoice.
-/

namespace CostJournal

/-- The places that are kept when an amount is converted. -/
def convertedScale : Nat := 6

/-- An amount in the payment currency of an invoice; the same where nothing is to be converted. -/
def convertAmount (amount : Decimal) (invoice : Option InvoiceEntityDetails) : Checked Decimal :=
  match invoice with
  | some details =>
    if details.needsConversion then do
      return (← amount.mul details.exchangeRate).roundTo convertedScale (by decide)
    else .ok amount
  | none => .ok amount

/-- What the lines of one account are built from. -/
structure LineBuilder where
  details : JournalDetails
  accountId : String
  metrics : AccountMetrics
  invoices : OrganizationInvoices

namespace LineBuilder

/-- The entity that invoices a service; a service without one has the empty name. -/
def invoiceEntity (b : LineBuilder) (service : String) : String :=
  (b.metrics.invoiceEntity? service).getD ""

def invoice? (b : LineBuilder) (service : String) : Option InvoiceEntityDetails :=
  b.invoices.entity? (b.invoiceEntity service)

/-- The line that bills an amount of a service under a SKU. -/
def validLine (b : LineBuilder) (service : String) (amount : Decimal) (sku : String) :
    Checked JournalLine := do
  let converted ← convertAmount amount (b.invoice? service)
  return (JournalLine.create b.details b.accountId service converted).withItem sku
    |>.withInvoice (b.invoiceEntity service) (((b.invoice? service).map (·.invoiceId)).getD "")

/-- The line that records why a service is not billed. -/
def errorLine (b : LineBuilder) (service : String) (amount : Decimal) (sku message : String) :
    Checked JournalLine := do
  return (← b.validLine service amount sku).withError message

end LineBuilder

end CostJournal
