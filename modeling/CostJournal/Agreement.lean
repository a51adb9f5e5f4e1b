import CostJournal.Json.Decode

/-!
# Authorizations, agreements and subscriptions

What the marketplace says about whom to bill: an authorization in one currency, its agreements with
one paying account each, and their subscriptions with one account and some catalog items each.
-/

namespace CostJournal

/-- The id that the vendor gave. -/
structure VendorIds where
  vendor : Option String := none
deriving DecidableEq

/-- The vendor's id unless it is empty. -/
def VendorIds.nonempty? (v : VendorIds) : Option String := v.vendor.filter (· != "")

structure Authorization where
  id : String
  name : Option String
  currency : String
  externalIds : VendorIds
  productId : Option String
deriving DecidableEq

structure Parameter where
  externalId : String
  value : Option String
deriving DecidableEq

structure Parameters where
  ordering : List Parameter := []
  fulfillment : List Parameter := []
deriving DecidableEq

inductive SubscriptionStatus where
  | active
  | updating
  | terminating
  | terminated
  | expired
  | unknown
deriving DecidableEq

/-- An ordered catalog item; its vendor's id is the SKU that picks the processor. -/
structure SubscriptionLine where
  id : String
  itemId : String
  itemIds : VendorIds
deriving DecidableEq

structure Subscription where
  id : String
  status : SubscriptionStatus
  /-- The vendor's id is the account that the subscription bills. -/
  externalIds : VendorIds
  lines : List SubscriptionLine
deriving DecidableEq

structure Agreement where
  id : String
  status : Option String
  /-- The vendor's id is the paying account of the organization. -/
  externalIds : VendorIds
  subscriptions : List Subscription
  parameters : Parameters
deriving DecidableEq

def SubscriptionStatus.isTerminated (s : SubscriptionStatus) : Bool := s = terminated || s = expired

def SubscriptionLine.sku? (l : SubscriptionLine) : Option String := l.itemIds.vendor

def Subscription.accountId? (s : Subscription) : Option String := s.externalIds.nonempty?

def Subscription.isTerminated (s : Subscription) : Bool := s.status.isTerminated

namespace Agreement

/-- The parameter that says whose usage an agreement bills. -/
def transferTypeParameter : String := "transferType"

/-- The transfer type of agreements whose paying account is billed elsewhere. -/
def splitBilling : String := "split_billing"

def mpaId? (a : Agreement) : Option String := a.externalIds.nonempty?

/-- The value of the first fulfillment parameter of that id. -/
def fulfillmentParameter? (a : Agreement) (externalId : String) : Option String :=
  (a.parameters.fulfillment.find? (·.externalId == externalId)).bind (·.value)

def isSplitBilling (a : Agreement) : Bool :=
  a.fulfillmentParameter? transferTypeParameter == some splitBilling

def firstActiveSubscription? (a : Agreement) : Option Subscription :=
  a.subscriptions.find? (!·.isTerminated)

end Agreement

open Json

def VendorIds.ofJson? (j : Json) : Option VendorIds := do
  return ⟨← (← j.record? ["vendor"]).optional "vendor" text?⟩

def VendorIds.toJson (v : VendorIds) : Json := .object (field? "vendor" .string v.vendor)

/-- The id of a reference to another record. -/
def referenceId? (j : Json) : Option String := do (← j.record? ["id"]).required "id" text?

def referenceJson (id : String) : Json := .object [("id", .string id)]

def Authorization.ofJson? (j : Json) : Option Authorization := do
  let r ← j.record? ["id", "name", "currency", "externalIds", "product"]
  return ⟨← r.required "id" text?, ← r.optional "name" text?, ← r.required "currency" text?,
    ← r.withDefault "externalIds" VendorIds.ofJson? {}, ← r.optional "product" referenceId?⟩

def Authorization.toJson (a : Authorization) : Json :=
  .object ([("id", .string a.id), ("name", ofOption .string a.name), ("currency", .string a.currency),
      ("externalIds", a.externalIds.toJson)] ++ field? "product" referenceJson a.productId)

def Parameter.ofJson? (j : Json) : Option Parameter := do
  let r ← j.record? ["externalId", "value"]
  return ⟨← r.required "externalId" text?, ← r.optional "value" text?⟩

def Parameter.toJson (p : Parameter) : Json :=
  .object [("externalId", .string p.externalId), ("value", ofOption .string p.value)]

def Parameters.ofJson? (j : Json) : Option Parameters := do
  let r ← j.record? ["ordering", "fulfillment"]
  return ⟨← r.withDefault "ordering" (list? Parameter.ofJson?) [],
    ← r.withDefault "fulfillment" (list? Parameter.ofJson?) []⟩

def Parameters.toJson (p : Parameters) : Json :=
  .object [("ordering", ofList Parameter.toJson p.ordering),
    ("fulfillment", ofList Parameter.toJson p.fulfillment)]

def SubscriptionStatus.ofName (name : String) : SubscriptionStatus :=
  if name = "Active" then active
  else if name = "Updating" then updating
  else if name = "Terminating" then terminating
  else if name = "Terminated" then terminated
  else if name = "Expired" then expired
  else unknown

def SubscriptionStatus.name : SubscriptionStatus → String
  | active => "Active"
  | updating => "Updating"
  | terminating => "Terminating"
  | terminated => "Terminated"
  | expired => "Expired"
  | unknown => "Unknown"

def SubscriptionLine.ofJson? (j : Json) : Option SubscriptionLine := do
  let r ← j.record? ["id", "item"]
  let (itemId, itemIds) ← r.required "item" fun i => do
    let r ← i.record? ["id", "externalIds"]
    return (← r.required "id" text?, ← r.withDefault "externalIds" VendorIds.ofJson? {})
  return ⟨← r.required "id" text?, itemId, itemIds⟩

def SubscriptionLine.toJson (l : SubscriptionLine) : Json :=
  .object [("id", .string l.id),
    ("item", .object [("id", .string l.itemId), ("externalIds", l.itemIds.toJson)])]

def Subscription.ofJson? (j : Json) : Option Subscription := do
  let r ← j.record? ["id", "status", "externalIds", "lines"]
  return ⟨← r.required "id" text?, .ofName (← r.required "status" choice?),
    ← r.withDefault "externalIds" VendorIds.ofJson? {},
    ← r.withDefault "lines" (list? SubscriptionLine.ofJson?) []⟩

def Subscription.toJson (s : Subscription) : Json :=
  .object [("id", .string s.id), ("status", .string s.status.name), ("externalIds", s.externalIds.toJson),
    ("lines", ofList SubscriptionLine.toJson s.lines)]

def Agreement.ofJson? (j : Json) : Option Agreement := do
  let r ← j.record? ["id", "status", "externalIds", "subscriptions", "parameters"]
  return ⟨← r.required "id" text?, ← r.optional "status" text?,
    ← r.withDefault "externalIds" VendorIds.ofJson? {},
    ← r.withDefault "subscriptions" (list? Subscription.ofJson?) [],
    ← r.withDefault "parameters" Parameters.ofJson? {}⟩

def Agreement.toJson (a : Agreement) : Json :=
  .object [("id", .string a.id), ("status", ofOption .string a.status),
    ("externalIds", a.externalIds.toJson), ("subscriptions", ofList Subscription.toJson a.subscriptions),
    ("parameters", a.parameters.toJson)]

end CostJournal
