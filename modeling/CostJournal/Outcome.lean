import CostJournal.Invoice
import CostJournal.Line
import CostJournal.Report

/-!
# Outcomes

What accounts and agreements leave behind, lines and reports, and how an authorization gathers them.
-/

namespace CostJournal

/-- The reports that an account is reconciled with. -/
inductive AccountReport where
  | recordTypes
  | invoiceEntities
deriving DecidableEq

def AccountReport.name : AccountReport → String
  | recordTypes => "CostByRecordTypeAndService"
  | invoiceEntities => "CostByServiceAndInvoiceEntity"

/-- The reports behind a journal. -/
structure OrganizationReports where
  /-- The marketplace report of each paying account. -/
  marketplaceUsage : SortedMap Report := .empty
  /-- The invoices of each paying account. -/
  organizationInvoices : SortedMap OrganizationInvoices := .empty
  /-- The reports of each account by name. -/
  accounts : SortedMap (SortedMap Report) := .empty
deriving DecidableEq

namespace OrganizationReports

/-- Puts reports of an account beside those that it has; equal names are replaced. -/
def addAccount (r : OrganizationReports) (accountId : String) (reports : SortedMap Report) :
    OrganizationReports :=
  let held := (r.accounts.get? accountId).getD .empty
  { r with accounts := r.accounts.insert accountId (held.insertAll reports.entries) }

/-- Takes in the reports of another agreement, which replace those of the same keys. -/
def merge (r other : OrganizationReports) : OrganizationReports :=
  other.accounts.entries.foldl (fun r e => r.addAccount e.1 e.2)
    { r with
      marketplaceUsage := r.marketplaceUsage.insertAll other.marketplaceUsage.entries
      organizationInvoices := r.organizationInvoices.insertAll other.organizationInvoices.entries }

end OrganizationReports

structure AccountOutcome where
  lines : List JournalLine := []
  reports : SortedMap Report := .empty
deriving DecidableEq

def AccountOutcome.addReport (o : AccountOutcome) (kind : AccountReport) (r : Report) : AccountOutcome :=
  { o with reports := o.reports.insert kind.name r }

structure AgreementOutcome where
  lines : List JournalLine := []
  reports : OrganizationReports := {}
deriving DecidableEq

def AgreementOutcome.addAccount (o : AgreementOutcome) (accountId : String) (a : AccountOutcome) :
    AgreementOutcome :=
  { lines := o.lines ++ a.lines, reports := o.reports.addAccount accountId a.reports }

/-- What an authorization has gathered for its journal. -/
structure AuthorizationContext where
  authorization : Authorization
  journalId : String
  lines : List JournalLine := []
  reports : OrganizationReports := {}
deriving DecidableEq

namespace AuthorizationContext

def absorb (c : AuthorizationContext) (o : AgreementOutcome) : AuthorizationContext :=
  { c with lines := c.lines ++ o.lines, reports := c.reports.merge o.reports }

def invalidLines (c : AuthorizationContext) : List JournalLine := c.lines.filter (!·.isValid)

end AuthorizationContext

end CostJournal
