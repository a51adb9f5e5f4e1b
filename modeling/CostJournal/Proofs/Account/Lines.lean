import CostJournal.Reconciliation
import CostJournal.Proofs.Returns
import Mathlib.Data.List.TakeWhile

/-!
# What a built line says

`validLine_eq_ok` and `errorLine_eq_ok` give the line that a builder makes for a service: it is
`lineOf`, whose fields are read off by `simp`. The account of a line is written into a text and read
out of it again, and what is read is the account up to its first slash (`accountId_lineOf`).
-/

namespace CostJournal

/-- A text up to its first slash. -/
def beforeSlash (s : String) : String := String.ofList (s.toList.takeWhile (· != '/'))

theorem beforeSlash_append_slash (s t : String) : beforeSlash (s ++ "/" ++ t) = beforeSlash s := by
  have h : ∀ cs : List Char, (cs ++ ('/' :: t.toList)).takeWhile (· != '/') = cs.takeWhile (· != '/') := by
    intro cs
    induction cs with
    | nil => rfl
    | cons c cs ih =>
      rw [List.cons_append, List.takeWhile_cons, List.takeWhile_cons, ih]
  simp only [beforeSlash, String.toList_append, List.append_assoc]
  exact congrArg String.ofList (h s.toList)

theorem beforeSlash_beforeSlash (s : String) : beforeSlash (beforeSlash s) = beforeSlash s := by
  rw [beforeSlash, beforeSlash, String.toList_ofList, List.takeWhile_idem]

theorem beforeSlash_eq_self {s : String} : beforeSlash s = s ↔ '/' ∉ s.toList := by
  rw [beforeSlash, ← String.toList_inj, String.toList_ofList, List.takeWhile_eq_self_iff]
  constructor
  · intro h hmem
    simpa using h _ hmem
  · intro h c hc
    simpa using fun heq : c = '/' => h (heq ▸ hc)

namespace JournalLine
variable (l : JournalLine) (message : String)

@[simp] theorem accountId_create (details : JournalDetails) (accountId service : String) (amount : Decimal) :
    (create details accountId service amount).accountId = beforeSlash accountId := by
  have h : (create details accountId service amount).accountId = beforeSlash (accountId ++ "/" ++ "") := by
    rw [String.append_empty]
    rfl
  rw [h, beforeSlash_append_slash]

/-- An invoice writes the account that it reads. -/
@[simp] theorem accountId_withInvoice (entity invoiceId : String) :
    (l.withInvoice entity invoiceId).accountId = l.accountId := by
  have hread : l.accountId = beforeSlash l.accountAndEntity := rfl
  have hwrite : (l.withInvoice entity invoiceId).accountId = beforeSlash (l.accountId ++ "/" ++ entity) := rfl
  rw [hwrite, beforeSlash_append_slash, hread, beforeSlash_beforeSlash]

@[simp] theorem accountId_withItem (sku : String) : (l.withItem sku).accountId = l.accountId := rfl

@[simp] theorem serviceName_withError : (l.withError message).serviceName = l.serviceName := rfl

@[simp] theorem amount_withError : (l.withError message).amount = l.amount := rfl

@[simp] theorem error_withError : (l.withError message).error = some message := rfl

@[simp] theorem itemSearch_withError : (l.withError message).itemSearch = l.itemSearch := rfl

@[simp] theorem accountId_withError : (l.withError message).accountId = l.accountId := rfl

end JournalLine

namespace LineBuilder
variable {b : LineBuilder} {service sku message : String} {amount : Decimal} {l : JournalLine}

/-- The line of a service with an amount that is converted already. -/
def lineOf (b : LineBuilder) (service : String) (converted : Decimal) (sku : String) : JournalLine :=
  (JournalLine.create b.details b.accountId service converted).withItem sku
    |>.withInvoice (b.invoiceEntity service) (((b.invoice? service).map (·.invoiceId)).getD "")

theorem validLine_eq_ok : b.validLine service amount sku = .ok l ↔
    ∃ converted, convertAmount amount (b.invoice? service) = .ok converted ∧
      b.lineOf service converted sku = l := by
  simp only [validLine, bind_eq_ok, pure_eq_ok, lineOf]

theorem errorLine_eq_ok : b.errorLine service amount sku message = .ok l ↔
    ∃ converted, convertAmount amount (b.invoice? service) = .ok converted ∧
      (b.lineOf service converted sku).withError message = l := by
  simp only [errorLine, bind_eq_ok, pure_eq_ok, validLine_eq_ok]
  constructor
  · rintro ⟨_, ⟨converted, hc, rfl⟩, rfl⟩
    exact ⟨converted, hc, rfl⟩
  · rintro ⟨converted, hc, rfl⟩
    exact ⟨_, ⟨converted, hc, rfl⟩, rfl⟩

section
variable (b : LineBuilder) (service sku : String) (converted : Decimal)

@[simp] theorem serviceName_lineOf : (b.lineOf service converted sku).serviceName = service := rfl

@[simp] theorem amount_lineOf : (b.lineOf service converted sku).amount = converted := rfl

@[simp] theorem error_lineOf : (b.lineOf service converted sku).error = none := rfl

@[simp] theorem itemSearch_lineOf :
    (b.lineOf service converted sku).itemSearch = ⟨JournalLine.itemCriteria, sku⟩ := rfl

@[simp] theorem accountId_lineOf : (b.lineOf service converted sku).accountId = beforeSlash b.accountId := by
  simp [lineOf]

end

end LineBuilder

theorem convertedScale_le_maxScale : convertedScale ≤ maxScale := by decide

/-- What an amount is under an invoice: its product with the rate, rounded, where the entity is not paid in its
base currency, and else the amount itself. -/
structure IsConverted (amount : Decimal) (invoice? : Option InvoiceEntityDetails) (converted : Decimal) :
    Prop where
  kept : (∀ d ∈ invoice?, d.paymentCurrency = d.baseCurrency) → converted = amount
  atRate : ∀ d ∈ invoice?, d.paymentCurrency ≠ d.baseCurrency → ∃ product, amount.mul d.exchangeRate = .ok product ∧
    converted = product.roundTo convertedScale convertedScale_le_maxScale

theorem isConverted_of_convertAmount {amount converted : Decimal} {invoice? : Option InvoiceEntityDetails}
    (h : convertAmount amount invoice? = .ok converted) : IsConverted amount invoice? converted := by
  match invoice? with
  | none =>
    cases h
    exact ⟨fun _ => rfl, nofun⟩
  | some d =>
    by_cases hneeds : d.needsConversion = true
    · rw [convertAmount, if_pos hneeds] at h
      obtain ⟨product, hproduct, h⟩ := bind_eq_ok.mp h
      refine ⟨fun hkept => absurd (hkept d rfl) (bne_iff_ne.mp hneeds), ?_⟩
      rintro _ ⟨⟩ -
      exact ⟨product, hproduct, (pure_eq_ok.mp h).symm⟩
    · rw [convertAmount, if_neg hneeds] at h
      cases h
      refine ⟨fun _ => rfl, ?_⟩
      rintro _ ⟨⟩ hne
      exact absurd (bne_iff_ne.mpr hne) hneeds

/-- An invoice in its own base currency leaves amounts as they are. -/
theorem convertAmount_of_not_needsConversion {invoice : Option InvoiceEntityDetails}
    (h : ∀ d ∈ invoice, d.needsConversion = false) (amount : Decimal) :
    convertAmount amount invoice = .ok amount := by
  cases invoice with
  | none => rfl
  | some d => simp [convertAmount, h d rfl]

end CostJournal
