import CostJournal.Metrics

/-!
# Discounts

A validator decides whether the discount that the provider gave on a service is the one expected of
the SKU that would bill it.
-/

namespace CostJournal

namespace Discount

/-- The magnitude of a part in percent of a total; zero when the total is. -/
def percentage (part total : Decimal) : Checked Decimal :=
  if total.isZero then .ok .zero
  else do
    let ratio ← part.abs.div total
    ratio.mul .hundred

/-- The observed discount is near the expected one. When none is expected, none may be observed. -/
def isWithinTolerance (observed expected tolerance : Decimal) : Checked Bool :=
  if expected.isZero && !observed.isZero then .ok false
  else do
    let difference ← observed.sub expected
    return decide (difference.abs ≤ tolerance)

/-- The discount of an amount in percent, with two places; no bounds are put on it. -/
def implied (providerDiscount amount : Decimal) : Checked Decimal :=
  if amount.isZero then .ok .zero
  else do
    let ratio ← providerDiscount.neg.div amount
    let percent ← ratio.mul .hundred
    return (percent.roundTo 2 (by decide)).normalize

end Discount

/-- More than one support product on an account leaves open which one a discount is for. -/
structure AmbiguousSupport where
  services : List String
deriving DecidableEq

def AmbiguousSupport.message (e : AmbiguousSupport) : String :=
  "Multiple support metrics found: " ++ ", ".intercalate e.services

inductive Validator where
  /-- Accepts every service. -/
  | acceptAll
  /-- The provider's discount in percent of the amount itself. -/
  | ofAmount
  /-- The provider's discount in percent of usage and recurring fees together. -/
  | ofUsage
  /-- The refund in whole percent of the only support product. -/
  | supportRefund
  /-- The provider's discount in whole percent of the only support product. -/
  | supportDiscount
deriving DecidableEq

namespace Validator

/-- The amount of the only support product, zero without one. -/
def singleSupportAmount (m : AccountMetrics) : Except AmbiguousSupport Decimal :=
  match (m.services .support).entries with
  | [] => .ok .zero
  | [(_, amount)] => .ok amount
  | entries => .error ⟨entries.map (·.1)⟩

/-- The amount of `numerator` in whole percent of the support amount is the expected discount. -/
def matchesSupport (numerator : Metric) (expected : Decimal) (service : String) (m : AccountMetrics) :
    Billing AmbiguousSupport Bool := do
  let total ← Billing.ofExcept (singleSupportAmount m)
  let observed ← Discount.percentage (m.amount numerator service) total
  return (observed.roundTo 0 (Nat.zero_le _)).sameValue expected

/-- Whether the discount on a service is the expected one. -/
def validate (v : Validator) (expected amount : Decimal) (service : String) (m : AccountMetrics)
    (tolerance : Decimal) : Billing AmbiguousSupport Bool :=
  match v with
  | acceptAll => return true
  | ofAmount => do
    let observed ← Discount.percentage (m.amount .providerDiscount service) amount
    Discount.isWithinTolerance observed expected tolerance
  | ofUsage => do
    let total ← (m.amount .usage service).add (m.amount .recurring service)
    let observed ← Discount.percentage (m.amount .providerDiscount service) total
    Discount.isWithinTolerance observed expected tolerance
  | supportRefund => matchesSupport .refund expected service m
  | supportDiscount => matchesSupport .providerDiscount expected service m

end Validator

end CostJournal
