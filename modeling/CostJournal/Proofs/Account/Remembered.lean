import CostJournal.Proofs.Account.Lines
import Mathlib.Data.List.Induction

/-!
# The accounts that lines remember

A line is created for an account, and is then given items, invoices and errors in any order (`LineHistory.line`). The
account stands in one text with the entity of the last invoice, and every invoice reads it out of that text to write it
again. So a line remembers its account up to the first slash (`LineHistory.accountId_line`), and lines are found under
the accounts that they were made for exactly when none of these has a slash: `accountsRemembered_iff`.
-/

namespace CostJournal

/-- What is done to a line after it is created. -/
inductive LineStep where
  | item (sku : String)
  | invoice (entity invoiceId : String)
  | error (message : String)

def LineStep.entity? : LineStep → Option String
  | .invoice entity _ => some entity
  | .item _ | .error _ => none

namespace JournalLine

def apply (l : JournalLine) : LineStep → JournalLine
  | .item sku => l.withItem sku
  | .invoice entity invoiceId => l.withInvoice entity invoiceId
  | .error message => l.withError message

/-- What no step changes. -/
structure Keeps (l l' : JournalLine) : Prop where
  accountId : l'.accountId = l.accountId
  serviceName : l'.serviceName = l.serviceName
  amount : l'.amount = l.amount
  subscription : l'.subscriptionSearch = l.subscriptionSearch

theorem keeps_apply (l : JournalLine) (step : LineStep) : l.Keeps (l.apply step) := by
  cases step with
  | item sku => exact ⟨accountId_withItem .., rfl, rfl, rfl⟩
  | invoice entity invoiceId => exact ⟨accountId_withInvoice .., rfl, rfl, rfl⟩
  | error message => exact ⟨accountId_withError .., rfl, rfl, rfl⟩

theorem keeps_foldl (l : JournalLine) (steps : List LineStep) : l.Keeps (steps.foldl apply l) := by
  induction steps generalizing l with
  | nil => exact ⟨rfl, rfl, rfl, rfl⟩
  | cons step steps ih =>
    have hstep := keeps_apply l step
    have hrest := ih (l.apply step)
    exact ⟨hrest.accountId.trans hstep.accountId, hrest.serviceName.trans hstep.serviceName,
      hrest.amount.trans hstep.amount, hrest.subscription.trans hstep.subscription⟩

theorem accountAndEntity_foldl (l : JournalLine) (steps : List LineStep) :
    (steps.foldl apply l).accountAndEntity =
      ((steps.reverse.findSome? LineStep.entity?).map fun entity => l.accountId ++ "/" ++ entity).getD
        l.accountAndEntity := by
  induction steps using List.reverseRecOn with
  | nil => rfl
  | append_singleton steps step ih =>
    rw [List.foldl_concat, List.reverse_append, List.reverse_singleton, List.singleton_append, List.findSome?_cons]
    cases step with
    | item sku => exact ih
    | error message => exact ih
    | invoice entity invoiceId =>
      have hread : (steps.foldl apply l).accountId = l.accountId := (keeps_foldl l steps).accountId
      exact congrArg (· ++ "/" ++ entity) hread

end JournalLine

/-- How a line came about. -/
structure LineHistory where
  details : JournalDetails
  accountId : String
  serviceName : String
  amount : Decimal
  steps : List LineStep

namespace LineHistory
variable (h : LineHistory)

def created : JournalLine := .create h.details h.accountId h.serviceName h.amount

def line : JournalLine := h.steps.foldl JournalLine.apply h.created

/-- The entity of the last invoice, empty before the first. -/
def entity : String := (h.steps.reverse.findSome? LineStep.entity?).getD ""

theorem keeps_line : h.created.Keeps h.line := JournalLine.keeps_foldl ..

theorem accountId_line : h.line.accountId = beforeSlash h.accountId :=
  h.keeps_line.accountId.trans (JournalLine.accountId_create ..)

@[simp] theorem serviceName_line : h.line.serviceName = h.serviceName := h.keeps_line.serviceName

@[simp] theorem amount_line : h.line.amount = h.amount := h.keeps_line.amount

/-- The line tells the account that it was created for. -/
structure Remembered (h : LineHistory) : Prop where
  accountId : h.line.accountId = h.accountId
  accountAndEntity : h.line.accountAndEntity = h.accountId ++ "/" ++ h.entity
  subscription : h.line.subscriptionSearch.value = h.line.accountId

variable {h}

theorem remembered_of_no_slash (hslash : '/' ∉ h.accountId.toList) : h.Remembered := by
  have hbefore := beforeSlash_eq_self.mpr hslash
  have haccount : h.line.accountId = h.accountId := h.accountId_line.trans hbefore
  refine ⟨haccount, ?_, ?_⟩
  · have hcreated : h.created.accountId = h.accountId := (JournalLine.accountId_create ..).trans hbefore
    have hempty : h.created.accountAndEntity = h.accountId ++ "/" ++ "" := by
      rw [String.append_empty]
      rfl
    rw [line, JournalLine.accountAndEntity_foldl, hcreated, hempty, entity]
    cases h.steps.reverse.findSome? LineStep.entity? <;> rfl
  · rw [h.keeps_line.subscription, haccount]
    rfl

end LineHistory

/-- All lines remember their accounts, and the tests for an account select the lines that were made for it. -/
structure AccountsRemembered (hs : List LineHistory) : Prop where
  remembered : ∀ h ∈ hs, h.Remembered
  selected : ∀ accountId, (hs.map (·.line)).filter (·.accountId == accountId) =
    (hs.filter (·.accountId == accountId)).map (·.line)
  named : ∀ accountId service, isNamed (hs.map (·.line)) accountId service =
    hs.any fun h => h.accountId == accountId && h.serviceName == service
  amounts : ∀ accountId, amountByAccount (hs.map (·.line)) accountId =
    Decimal.sum ((hs.filter (·.accountId == accountId)).map (·.amount))

theorem accountsRemembered_of_remembered {hs : List LineHistory} (hall : ∀ h ∈ hs, h.Remembered) :
    AccountsRemembered hs := by
  have hselected : ∀ accountId, (hs.map (·.line)).filter (·.accountId == accountId) =
      (hs.filter (·.accountId == accountId)).map (·.line) := fun accountId => by
    rw [List.filter_map]
    refine congrArg _ (List.filter_congr fun h hh => ?_)
    rw [Function.comp_apply, (hall h hh).accountId]
  refine ⟨hall, hselected, fun accountId service => ?_, fun accountId => ?_⟩
  · have hany : isNamed (hs.map (·.line)) accountId service =
        ((hs.map (·.line)).filter (·.accountId == accountId)).any (·.serviceName == service) := List.any_filter.symm
    rw [hany, hselected, List.any_map, List.any_filter]
    refine congrArg hs.any (funext fun h => ?_)
    rw [Function.comp_apply, h.serviceName_line]
  · rw [amountByAccount, hselected, List.map_map]
    exact congrArg _ (List.map_congr_left fun h _ => h.amount_line)

theorem accountsRemembered_iff (hs : List LineHistory) :
    (∀ h ∈ hs, h.line.accountId = beforeSlash h.accountId) ∧
      (AccountsRemembered hs ↔ ∀ h ∈ hs, '/' ∉ h.accountId.toList) := by
  refine ⟨fun h _ => h.accountId_line, fun hall h hh => ?_, fun hslash => ?_⟩
  · rw [← beforeSlash_eq_self, ← h.accountId_line]
    exact (hall.remembered h hh).accountId
  · exact accountsRemembered_of_remembered fun h hh => LineHistory.remembered_of_no_slash (hslash h hh)

/-- A line with an invoice for an account whose id has a slash. -/
def slashedLine : LineHistory where
  details := ⟨"AGR-1", "123456789012", .first, .last, "COM"⟩
  accountId := "210/987654321"
  serviceName := "Amazon EC2"
  amount := .hundred
  steps := [.invoice "Amazon Web Services, Inc." "INV-1"]

/-- The part behind the slash is lost, and so is the line's amount for its account. -/
theorem not_accountsRemembered_slashedLine :
    slashedLine.line.accountId = "210" ∧ slashedLine.line.accountAndEntity = "210/Amazon Web Services, Inc." ∧
      slashedLine.line.subscriptionSearch.value = "210/987654321" ∧
      amountByAccount [slashedLine.line] "210/987654321" = .ok .zero ∧
      isNamed [slashedLine.line] "210/987654321" "Amazon EC2" = false ∧ ¬ AccountsRemembered [slashedLine] := by
  have haccount : slashedLine.line.accountId = "210" := by decide +kernel
  refine ⟨haccount, by decide +kernel, rfl, by decide +kernel, by decide +kernel, fun hall => ?_⟩
  have hkept := (hall.remembered slashedLine List.mem_cons_self).accountId
  rw [haccount] at hkept
  exact absurd hkept (by decide)

end CostJournal
