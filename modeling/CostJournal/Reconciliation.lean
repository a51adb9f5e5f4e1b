import CostJournal.Discount
import CostJournal.LineBuilder

/-!
# Reconciliation

Every service that costs something has to be in a line of its account. A service in no line gets one
that records the cost and why it is not billed.
-/

namespace CostJournal

/-- Some line of the account names the service. -/
def isNamed (lines : List JournalLine) (accountId service : String) : Bool :=
  lines.any fun l => l.accountId == accountId && l.serviceName == service

namespace LineBuilder

/-- The line of a service that nothing bills. -/
def unmatchedLine (b : LineBuilder) (service : String) (amount : Decimal) : Checked JournalLine := do
  let discount ← Discount.implied (b.metrics.amount .providerDiscount service) amount
  b.errorLine service amount itemNotFound
    ("Service " ++ service ++ " with amount " ++ amount.toText ++ " and discount " ++ discount.toText
      ++ "% did not match any subscription item")

/-- The lines of the observed services that no line of the account names, in byte order. -/
def unmatchedLines (b : LineBuilder) (observed : SortedMap Decimal) (lines : List JournalLine) :
    Checked (List JournalLine) :=
  (observed.entries.filter fun e => !isNamed lines b.accountId e.1).mapM fun e => b.unmatchedLine e.1 e.2

end LineBuilder

/-- The sum of the lines of an account, billed or not. -/
def amountByAccount (lines : List JournalLine) (accountId : String) : Checked Decimal :=
  Decimal.sum ((lines.filter (·.accountId == accountId)).map (·.amount))

end CostJournal
