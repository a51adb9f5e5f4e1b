import CostJournal.Journal
import CostJournal.Json.Printer

/-!
# Journal lines

A line charges one service of one account, or, when `error` is set, records that it could not be
charged. A journal file holds one line of text for each.
-/

namespace CostJournal

/-- The item value of a line that no catalog item is known for. -/
def itemNotFound : String := "Item not found"

/-- By which field the ledger looks up a record, and the value it looks for. -/
structure SearchCriteria where
  criteria : String
  value : String
deriving DecidableEq

@[ext]
structure JournalLine where
  serviceName : String
  /-- The account, a slash, and the invoicing entity. -/
  accountAndEntity : String
  invoiceId : String
  agreementId : String
  mpaId : String
  startDate : Date
  endDate : Date
  price : Decimal
  unitPrice : Decimal
  quantity : Nat
  itemSearch : SearchCriteria
  subscriptionSearch : SearchCriteria
  segment : String
  error : Option String
deriving DecidableEq

namespace JournalLine

def itemCriteria : String := "item.externalIds.vendor"

def subscriptionCriteria : String := "subscription.externalIds.vendor"

/-- A line for a service of an account at a price, without an item and without an invoice. -/
def create (details : JournalDetails) (accountId serviceName : String) (amount : Decimal) : JournalLine where
  serviceName := serviceName
  accountAndEntity := accountId ++ "/"
  invoiceId := ""
  agreementId := details.agreementId
  mpaId := details.mpaId
  startDate := details.startDate
  endDate := details.endDate
  price := amount
  unitPrice := amount
  quantity := 1
  itemSearch := ⟨itemCriteria, itemNotFound⟩
  subscriptionSearch := ⟨subscriptionCriteria, accountId⟩
  segment := details.segment
  error := none

/-- The part before the first slash. -/
def accountId (l : JournalLine) : String :=
  String.ofList (l.accountAndEntity.toList.takeWhile (· != '/'))

/-- Links the line to the catalog item of a SKU. -/
def withItem (sku : String) (l : JournalLine) : JournalLine :=
  { l with itemSearch := { l.itemSearch with value := sku } }

/-- Names the invoice and the entity that issued it. -/
def withInvoice (entity invoiceId : String) (l : JournalLine) : JournalLine :=
  { l with accountAndEntity := l.accountId ++ "/" ++ entity, invoiceId := invoiceId }

/-- Marks the line as one that could not be charged. -/
def withError (message : String) (l : JournalLine) : JournalLine := { l with error := some message }

def isValid (l : JournalLine) : Bool := l.error.isNone

def amount (l : JournalLine) : Decimal := l.price

end JournalLine

open Json

def SearchCriteria.ofJson? (j : Json) : Option SearchCriteria := do
  let r ← j.record? ["criteria", "value"]
  return ⟨← r.required "criteria" text?, ← r.required "value" text?⟩

def SearchCriteria.toJson (s : SearchCriteria) : Json :=
  .object [("criteria", .string s.criteria), ("value", .string s.value)]

namespace JournalLine

def ofJson? (j : Json) : Option JournalLine := do
  let r ← j.record? ["description", "externalIds", "period", "price", "quantity", "search", "segment",
    "error"]
  let (serviceName, accountAndEntity) ← r.required "description" fun d => do
    let r ← d.record? ["value1", "value2"]
    return (← r.required "value1" text?, ← r.required "value2" text?)
  let (invoiceId, agreementId, mpaId) ← r.required "externalIds" fun d => do
    let r ← d.record? ["invoice", "reference", "vendor"]
    return (← r.required "invoice" text?, ← r.required "reference" text?, ← r.required "vendor" text?)
  let (startDate, endDate) ← r.required "period" fun d => do
    let r ← d.record? ["start", "end"]
    return (← r.required "start" Json.date?, ← r.required "end" Json.date?)
  let (price, unitPrice) ← r.required "price" fun d => do
    let r ← d.record? ["PPx1", "unitPP"]
    return (← r.required "PPx1" decimal?, ← r.required "unitPP" decimal?)
  let (itemSearch, subscriptionSearch) ← r.required "search" fun d => do
    let r ← d.record? ["item", "subscription"]
    return (← r.required "item" SearchCriteria.ofJson?, ← r.required "subscription" SearchCriteria.ofJson?)
  return {
    serviceName, accountAndEntity, invoiceId, agreementId, mpaId, startDate, endDate, price, unitPrice
    quantity := ← r.required "quantity" (natural? (twoPow 32))
    itemSearch, subscriptionSearch
    segment := ← r.required "segment" text?
    error := ← r.optional "error" text? }

def toJson (l : JournalLine) : Json :=
  .object ([
    ("description", .object [("value1", .string l.serviceName), ("value2", .string l.accountAndEntity)]),
    ("externalIds", .object [("invoice", .string l.invoiceId), ("reference", .string l.agreementId),
      ("vendor", .string l.mpaId)]),
    ("period", .object [("start", Json.ofDate l.startDate), ("end", Json.ofDate l.endDate)]),
    ("price", .object [("PPx1", Json.ofDecimal l.price), ("unitPP", Json.ofDecimal l.unitPrice)]),
    ("quantity", Json.ofNat l.quantity),
    ("search", .object [("item", l.itemSearch.toJson), ("subscription", l.subscriptionSearch.toJson)]),
    ("segment", .string l.segment)] ++ field? "error" .string l.error)

/-- The line of text of a journal file. -/
def toText (l : JournalLine) : String := l.toJson.render ++ "\n"

end JournalLine

/-- The text of a journal file. -/
def JournalLine.fileText (lines : List JournalLine) : String := String.join (lines.map toText)

end CostJournal
