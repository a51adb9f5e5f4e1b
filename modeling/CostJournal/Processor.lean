import CostJournal.Discount
import CostJournal.LineBuilder
import CostJournal.Settings.Billing

/-!
# Processors

A processor bills one family of an account under one SKU: a line for every service of the family
that is not excluded and has the expected discount. `Processor.table` has the processor of each SKU.
-/

namespace CostJournal

structure Processor where
  metric : Metric
  validator : Validator
  discount : Decimal
  tolerance : Decimal
  excludedServices : List String := []
  /-- The services of these families are billed under another SKU. -/
  excludedMetrics : List Metric := []

/-- The processors by SKU. -/
abbrev ProcessorTable := List (String × Processor)

namespace Processor

def isExcluded (p : Processor) (service : String) (m : AccountMetrics) : Bool :=
  p.excludedServices.contains service ||
    p.excludedMetrics.any fun metric => (m.services metric).contains service

/-- The lines of one service: none when it is excluded or its discount is another one. -/
def lineFor (p : Processor) (b : LineBuilder) (sku : String) (service : String) (amount : Decimal) :
    Billing LineFailure (List JournalLine) := do
  if p.isExcluded service b.metrics then return []
  match ← (p.validator.validate p.discount amount service b.metrics p.tolerance).run with
  | .error e => throw ⟨service, .zero, e.message⟩
  | .ok false => return []
  | .ok true => return [← b.validLine service amount sku]

/-- The lines of the family, in byte order of their services. -/
def process (p : Processor) (b : LineBuilder) (sku : String) : Billing LineFailure (List JournalLine) := do
  let lines ← (b.metrics.services p.metric).entries.mapM fun e => p.lineFor b sku e.1 e.2
  return lines.flatten

/-- The service that savings plans already pay. -/
def savingsPlansComputeUsage : String := "Savings Plans for AWS Compute usage"

def marketplace : Processor where
  metric := .marketplace
  validator := .acceptAll
  discount := .zero
  tolerance := .zero
  excludedServices := [tax]

def usage (discount tolerance : Decimal) : Processor where
  metric := .usage
  validator := .ofUsage
  discount := discount
  tolerance := tolerance
  excludedServices := [savingsPlansComputeUsage]
  excludedMetrics := [.savingPlans, .marketplace]

def otherServices : Processor where
  metric := .usage
  validator := .acceptAll
  discount := .zero
  tolerance := .zero
  excludedMetrics := [.marketplace]

def support (discount tolerance : Decimal) : Processor where
  metric := .support
  validator := .supportRefund
  discount := discount
  tolerance := tolerance

def supportEnterprise (discount tolerance : Decimal) : Processor where
  metric := .support
  validator := .supportDiscount
  discount := discount
  tolerance := tolerance

def savingPlans (discount tolerance : Decimal) : Processor where
  metric := .savingPlans
  validator := .ofAmount
  discount := discount
  tolerance := tolerance

def upfront (discount tolerance : Decimal) : Processor where
  metric := .recurring
  validator := .ofUsage
  discount := discount
  tolerance := tolerance

/-- The processors of the catalog's SKUs. -/
def table (s : BillingSettings) : ProcessorTable :=
  let d := s.discounts
  let t := s.tolerance
  [("AWS Marketplace", marketplace),
    ("AWS Usage", usage d.usage t),
    ("AWS Usage incentivate", usage d.usageIncentivate t),
    ("AWS Other services", otherServices),
    ("AWS Support", support d.support t),
    ("AWS Support Enterprise", supportEnterprise d.supportEnterprise t),
    ("Saving Plans Recurring Fee", savingPlans d.savingPlans t),
    ("Saving Plans Recurring Fee incentivate", savingPlans d.savingPlansIncentivate t),
    ("Upfront", upfront d.upfront t),
    ("Upfront incentivate", upfront d.upfrontIncentivate t)]

end Processor

end CostJournal
