import CostJournal.Json.Decode

/-!
# Billing settings

Which products are billed, the discount that each family of SKUs is expected to have, and how far an
observed discount may be from it.
-/

namespace CostJournal

/-- Expected discounts in percent, one for each family of SKUs and tier. -/
structure Discounts where
  usage : Decimal := .ofNat 7
  usageIncentivate : Decimal := .ofNat 12
  support : Decimal := .ofNat 7
  supportEnterprise : Decimal := .ofNat 35
  savingPlans : Decimal := .ofNat 7
  savingPlansIncentivate : Decimal := .ofNat 12
  upfront : Decimal := .ofNat 7
  upfrontIncentivate : Decimal := .ofNat 12
deriving DecidableEq

/-- The discounts that count where no others are set. -/
def Discounts.standard : Discounts := {}

structure BillingSettings where
  productIds : List String := []
  /-- The largest distance, in percentage points, of an accepted discount from the expected one. -/
  tolerance : Decimal := .one
  segment : String := "COM"
  discounts : Discounts := .standard
deriving DecidableEq

open Json

/-- The discounts and their names in settings. -/
def Discounts.named (d : Discounts) : List (String × Decimal) :=
  [("usage", d.usage), ("usage_incentivate", d.usageIncentivate), ("support", d.support),
    ("support_enterprise", d.supportEnterprise), ("saving_plans", d.savingPlans),
    ("saving_plans_incentivate", d.savingPlansIncentivate), ("upfront", d.upfront),
    ("upfront_incentivate", d.upfrontIncentivate)]

/-- Discounts from a reader of fields, which takes a name and what is meant when it is missing. -/
def Discounts.read? (field : String → Decimal → Option Decimal) : Option Discounts := do
  let d := standard
  return {
    usage := ← field "usage" d.usage
    usageIncentivate := ← field "usage_incentivate" d.usageIncentivate
    support := ← field "support" d.support
    supportEnterprise := ← field "support_enterprise" d.supportEnterprise
    savingPlans := ← field "saving_plans" d.savingPlans
    savingPlansIncentivate := ← field "saving_plans_incentivate" d.savingPlansIncentivate
    upfront := ← field "upfront" d.upfront
    upfrontIncentivate := ← field "upfront_incentivate" d.upfrontIncentivate }

def Discounts.fieldNames : List String := standard.named.map (·.1)

def Discounts.ofJson? (j : Json) : Option Discounts := do
  let r ← j.record? Discounts.fieldNames
  Discounts.read? fun name absent => r.withDefault name decimal? absent

def BillingSettings.fieldNames : List String := ["product_ids", "tolerance_rate", "segment", "discounts"]

def BillingSettings.ofJson? (j : Json) : Option BillingSettings := do
  let r ← j.record? BillingSettings.fieldNames
  return {
    productIds := ← r.required "product_ids" (list? text?)
    tolerance := ← r.withDefault "tolerance_rate" decimal? .one
    segment := ← r.withDefault "segment" text? "COM"
    discounts := ← r.withDefault "discounts" Discounts.ofJson? .standard }

end CostJournal
