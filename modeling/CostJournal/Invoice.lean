import CostJournal.Json.Decode

/-!
# Invoices

`InvoiceSummary` is one invoice as the provider lists it. `OrganizationInvoices` gathers the invoices
of an organization: per invoicing entity the invoice to name and the rate to convert with, and totals.
-/

namespace CostJournal

structure CurrencyAmount where
  currencyCode : String
  totalAmount : String
  totalAmountBeforeTax : String
  /-- The exchange rate, where the invoice states one. -/
  rate : Option String
deriving DecidableEq

structure InvoiceSummary where
  accountId : String
  invoiceId : String
  invoicingEntity : String
  payment : CurrencyAmount
  base : CurrencyAmount
deriving DecidableEq

structure InvoiceEntityDetails where
  invoiceId : String
  baseCurrency : String
  paymentCurrency : String
  exchangeRate : Decimal
deriving DecidableEq

/-- Amounts of the entity are in another currency than its payments. -/
def InvoiceEntityDetails.needsConversion (d : InvoiceEntityDetails) : Bool :=
  d.paymentCurrency != d.baseCurrency

structure OrganizationInvoices where
  entities : SortedMap InvoiceEntityDetails := .empty
  totalAmount : Decimal := .zero
  totalAmountBeforeTax : Decimal := .zero
  baseTotalAmount : Decimal := .zero
  baseTotalAmountBeforeTax : Decimal := .zero
deriving DecidableEq

instance : Inhabited OrganizationInvoices := ⟨{}⟩

open Json

def CurrencyAmount.ofJson? (j : Json) : Option CurrencyAmount := do
  let r ← j.record? ["CurrencyCode", "TotalAmount", "TotalAmountBeforeTax", "CurrencyExchangeDetails"]
  let rate ← r.optional "CurrencyExchangeDetails" fun d => do
    (← d.record? ["Rate"]).required "Rate" text?
  return ⟨← r.required "CurrencyCode" text?, ← r.withDefault "TotalAmount" text? "",
    ← r.withDefault "TotalAmountBeforeTax" text? "", rate⟩

def CurrencyAmount.toJson (a : CurrencyAmount) : Json :=
  .object ([("CurrencyCode", .string a.currencyCode), ("TotalAmount", .string a.totalAmount),
      ("TotalAmountBeforeTax", .string a.totalAmountBeforeTax)]
    ++ field? "CurrencyExchangeDetails" (fun rate => .object [("Rate", .string rate)]) a.rate)

def InvoiceSummary.fieldNames : List String :=
  ["AccountId", "InvoiceId", "Entity", "PaymentCurrencyAmount", "BaseCurrencyAmount"]

def InvoiceSummary.ofRecord? (r : Record) : Option InvoiceSummary := do
  let entity ← r.required "Entity" fun e => do
    (← e.record? ["InvoicingEntity"]).required "InvoicingEntity" text?
  return ⟨← r.required "AccountId" text?, ← r.required "InvoiceId" text?, entity,
    ← r.required "PaymentCurrencyAmount" CurrencyAmount.ofJson?,
    ← r.required "BaseCurrencyAmount" CurrencyAmount.ofJson?⟩

def InvoiceSummary.ofJson? (j : Json) : Option InvoiceSummary := do
  ofRecord? (← j.record? fieldNames)

def InvoiceSummary.toJson (s : InvoiceSummary) : Json :=
  .object [("AccountId", .string s.accountId), ("InvoiceId", .string s.invoiceId),
    ("Entity", .object [("InvoicingEntity", .string s.invoicingEntity)]),
    ("PaymentCurrencyAmount", s.payment.toJson), ("BaseCurrencyAmount", s.base.toJson)]

def InvoiceEntityDetails.ofJson? (j : Json) : Option InvoiceEntityDetails := do
  let r ← j.record? ["invoice_id", "base_currency_code", "payment_currency_code", "exchange_rate"]
  return ⟨← r.required "invoice_id" text?, ← r.required "base_currency_code" text?,
    ← r.required "payment_currency_code" text?, ← r.required "exchange_rate" decimal?⟩

def InvoiceEntityDetails.toJson (d : InvoiceEntityDetails) : Json :=
  .object [("invoice_id", .string d.invoiceId), ("base_currency_code", .string d.baseCurrency),
    ("payment_currency_code", .string d.paymentCurrency), ("exchange_rate", ofDecimalText d.exchangeRate)]

def OrganizationInvoices.ofJson? (j : Json) : Option OrganizationInvoices := do
  let r ← j.record? ["invoice_entities", "total_amount", "total_amount_before_tax", "base_total_amount",
    "base_total_amount_before_tax"]
  return ⟨← r.required "invoice_entities" (map? InvoiceEntityDetails.ofJson?),
    ← r.required "total_amount" decimal?, ← r.required "total_amount_before_tax" decimal?,
    ← r.required "base_total_amount" decimal?, ← r.required "base_total_amount_before_tax" decimal?⟩

def OrganizationInvoices.toJson (o : OrganizationInvoices) : Json :=
  .object [("invoice_entities", ofMap InvoiceEntityDetails.toJson o.entities),
    ("total_amount", ofDecimalText o.totalAmount),
    ("total_amount_before_tax", ofDecimalText o.totalAmountBeforeTax),
    ("base_total_amount", ofDecimalText o.baseTotalAmount),
    ("base_total_amount_before_tax", ofDecimalText o.baseTotalAmountBeforeTax)]

end CostJournal
