import CostJournal.Outcome
import CostJournal.Processor
import CostJournal.Reconciliation

/-!
# The lines of an account

One pass over an account: what the processors of a subscription's items bill, and a line for every
observed service that none of these lines names.
-/

namespace CostJournal

/-- The lines that an item is billed with; a processor that fails gives one line that says why. An
item without a processor is not billed. -/
def itemLines (table : ProcessorTable) (b : LineBuilder) (item : SubscriptionLine) :
    Checked (List JournalLine) :=
  match item.sku? with
  | none => return []
  | some sku =>
    match table.lookup sku with
    | none => return []
    | some processor => do
      match ← (processor.process b sku).run with
      | .ok lines => return lines
      | .error e => return [← b.errorLine e.serviceName e.amount sku e.message]

/-- The three reports of a pass, and what is known of the agreement and its invoices. -/
structure AccountPass where
  accountId : String
  items : List SubscriptionLine
  details : JournalDetails
  invoices : OrganizationInvoices
  marketplace : Report
  recordTypes : Report
  invoiceEntities : Report

namespace AccountPass

/-- What the lines of the pass are built from. -/
def builder (p : AccountPass) (metrics : AccountMetrics) : LineBuilder :=
  ⟨p.details, p.accountId, metrics, p.invoices⟩

/-- The lines of the items in order, and then those of the services that no line names. With `logged`
their sum is computed as well, which may run out of decimals. -/
def lines (p : AccountPass) (table : ProcessorTable) (logged : Bool) :
    Billing Failure (List JournalLine) := do
  let metrics ← Billing.ofExcept
    (AccountMetrics.build p.accountId p.marketplace p.recordTypes p.invoiceEntities)
  let b := p.builder metrics
  let billed ← liftM (p.items.mapM (itemLines table b))
  let observed ← p.recordTypes.observedCosts
  let unmatched ← liftM (b.unmatchedLines observed billed.flatten)
  let lines := billed.flatten ++ unmatched
  if logged then
    let _ ← liftM (amountByAccount lines p.accountId)
  return lines

/-- The lines of the pass and its reports. -/
def outcome (p : AccountPass) (table : ProcessorTable) (logged : Bool) :
    Billing Failure AccountOutcome := do
  let o : AccountOutcome := { lines := ← p.lines table logged }
  return o.addReport .recordTypes p.recordTypes |>.addReport .invoiceEntities p.invoiceEntities

end AccountPass

end CostJournal
