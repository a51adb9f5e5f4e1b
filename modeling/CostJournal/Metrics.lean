import CostJournal.Amount
import CostJournal.Report

/-!
# Metrics of an account

The reports of an account as amounts per service, one family for each record type and one for the
marketplace, and the entity that invoices each service. `Report.observedCosts` is the cost that the
journal has to account for.
-/

namespace CostJournal

/-- The families of amounts that processors read. -/
inductive Metric where
  | marketplace
  | usage
  | support
  | refund
  | savingPlans
  | providerDiscount
  | recurring
deriving DecidableEq

namespace Metric

/-- The record type that the amounts of a family carry; the marketplace has a report of its own. -/
def recordType? : Metric → Option String
  | marketplace => none
  | usage => some "Usage"
  | support => some "Support"
  | refund => some "Refund"
  | savingPlans => some "SavingsPlanRecurringFee"
  | providerDiscount => some "Solution Provider Program Discount"
  | recurring => some "Recurring"

def all : List Metric :=
  [marketplace, usage, support, refund, savingPlans, providerDiscount, recurring]

end Metric

/-- Taxes are named so, as a record type and as a service. -/
def tax : String := "Tax"

namespace Report

/-- Second key and amount text of the rows that have `key` among their keys. -/
def rowsOf (r : Report) (key : String) : List (String × String) :=
  r.groups.filterMap fun g => do
    if g.keys.contains key then return (← g.secondaryKey?, ← g.unblendedAmount?) else none

/-- Puts the amount of a row under its key, unless it is zero. -/
def putAmount (m : SortedMap Decimal) (row : String × String) : Except Failure (SortedMap Decimal) := do
  let amount ← Amount.ofReport row.2
  return if amount.isZero then m else m.insert row.1 amount

/-- The amount of each second key in the rows of `key`; of several that are not zero the last. -/
def amountsByKey (r : Report) (key : String) : Except Failure (SortedMap Decimal) :=
  (r.rowsOf key).foldlM putAmount .empty

/-- The second key under the first, of the last row that has both. -/
def invoicingEntities (r : Report) : SortedMap String :=
  .ofList <| r.groups.filterMap fun g =>
    match g.keys with
    | service :: entity :: _ => some (service, entity)
    | _ => none

/-- Service and amount text of the rows that are no tax. -/
def costRows (r : Report) : List (String × String) :=
  r.groups.filterMap fun g =>
    match g.keys with
    | recordType :: service :: _ =>
      if recordType = tax ∨ service = tax then none else g.unblendedAmount?.map (service, ·)
    | _ => none

/-- Adds the amount of a row to its service, when it is positive. -/
def addCost (m : SortedMap Decimal) (row : String × String) : Billing Failure (SortedMap Decimal) := do
  let amount ← Billing.ofExcept (Amount.ofReport row.2)
  if Decimal.zero < amount then
    return m.insert row.1 (← ((m.get? row.1).getD .zero).add amount)
  else return m

/-- The sum of the positive amounts of each service. Each of these services has to be in a line. -/
def observedCosts (r : Report) : Billing Failure (SortedMap Decimal) :=
  r.costRows.foldlM addCost .empty

end Report

/-- The amounts of an account by family, and the invoicing entity of its services. -/
structure AccountMetrics where
  services : Metric → SortedMap Decimal := fun _ => .empty
  invoiceEntities : SortedMap String := .empty

namespace AccountMetrics

instance : Inhabited AccountMetrics := ⟨{}⟩

/-- Replaces the amounts of one family. -/
def set (m : AccountMetrics) (metric : Metric) (values : SortedMap Decimal) : AccountMetrics :=
  { m with services := fun k => if k = metric then values else m.services k }

def setInvoiceEntity (m : AccountMetrics) (service entity : String) : AccountMetrics :=
  { m with invoiceEntities := m.invoiceEntities.insert service entity }

/-- Zero for a service that the family does not have. -/
def amount (m : AccountMetrics) (metric : Metric) (service : String) : Decimal :=
  ((m.services metric).get? service).getD .zero

def invoiceEntity? (m : AccountMetrics) (service : String) : Option String :=
  m.invoiceEntities.get? service

/-- Reads the family of one metric from its report. -/
def familyOf (accountId : String) (marketplace recordTypes : Report) (metric : Metric) :
    Except Failure (SortedMap Decimal) :=
  match metric.recordType? with
  | some recordType => recordTypes.amountsByKey recordType
  | none => marketplace.amountsByKey accountId

/-- Reads every family, the marketplace first, and the invoicing entities. -/
def build (accountId : String) (marketplace recordTypes invoiceEntities : Report) :
    Except Failure AccountMetrics :=
  Metric.all.foldlM
    (fun m metric => do return m.set metric (← familyOf accountId marketplace recordTypes metric))
    { invoiceEntities := invoiceEntities.invoicingEntities }

end AccountMetrics

end CostJournal
