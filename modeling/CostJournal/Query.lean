import CostJournal.Invoice
import CostJournal.Period
import CostJournal.Report

/-!
# Queries for reports

The three cost and usage queries of a run, and how a provider of reports fails.
-/

namespace CostJournal

/-- Cost and usage from `start` up to the day before `end`. -/
structure CostQuery where
  start : Date
  «end» : Date
  groupBy : List GroupDefinition
  filter : Option ReportFilter
deriving DecidableEq

/-- The issuer of marketplace charges. -/
def marketplaceBillingEntity : String := "AWS Marketplace"

namespace CostQuery

/-- A query over a period, grouped by two dimensions, for the rows with one value. -/
def ofPeriod (p : Period) (first second : String) (filter : ReportFilter) : CostQuery where
  start := p.startDate
  «end» := p.endDate
  groupBy := [.dimension first, .dimension second]
  filter := some filter

/-- The marketplace charges of every account of an organization. -/
def marketplaceUsage (p : Period) : CostQuery :=
  ofPeriod p Dimension.linkedAccount Dimension.service
    ⟨Dimension.billingEntity, [marketplaceBillingEntity]⟩

/-- The cost of an account by record type and service. -/
def recordTypes (p : Period) (accountId : String) : CostQuery :=
  ofPeriod p Dimension.recordType Dimension.service ⟨Dimension.linkedAccount, [accountId]⟩

/-- The invoicing entity of each service of an account. -/
def invoiceEntities (p : Period) (accountId : String) : CostQuery :=
  ofPeriod p Dimension.service Dimension.invoicingEntity ⟨Dimension.linkedAccount, [accountId]⟩

end CostQuery

inductive ProviderFailure where
  | credentials (accountId message : String)
  | request (text : String)
deriving DecidableEq

namespace ProviderFailure

def message : ProviderFailure → String
  | credentials accountId message => "Credentials error for account " ++ accountId ++ ": " ++ message
  | request text => "Report request failed: " ++ text

def toFailure (e : ProviderFailure) : Failure := .provider e.message

end ProviderFailure

end CostJournal
