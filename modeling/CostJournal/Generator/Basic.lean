import CostJournal.Generator.Account
import CostJournal.Generator.Collaborators

/-!
# Generating journals

A run goes over authorizations, their agreements and their subscriptions. A unit that fails is told
to the operators and leaves nothing behind, and its siblings go on.
-/

namespace CostJournal

/-- What a run is asked to do. -/
structure Plan where
  period : Period
  productIds : List String
  /-- The only authorizations to bill; all when there are none. -/
  authorizationIds : List String := []
  table : ProcessorTable
  segment : String
  portal : Portal
  /-- The totals of accounts are computed for a log. -/
  logged : Bool := false

/-- What became of an authorization. -/
inductive AuthorizationResult where
  | uploaded (journalId : String) (totalLines invalidLines : Nat)
  | noAgreements (journalId : String)
  | noLines (journalId : String)
  | failed (error : String)
deriving DecidableEq

structure AuthorizationSummary where
  authorizationId : String
  result : AuthorizationResult
deriving DecidableEq

structure Summary where
  period : Period
  authorizations : List AuthorizationSummary := []
deriving DecidableEq

namespace Summary

/-- The result of the first authorization of that id. -/
def result? (s : Summary) (authorizationId : String) : Option AuthorizationResult :=
  (s.authorizations.find? (·.authorizationId == authorizationId)).map (·.result)

def uploaded (s : Summary) : Nat :=
  (s.authorizations.filter fun a => match a.result with | .uploaded .. => true | _ => false).length

def failed (s : Summary) : Nat :=
  (s.authorizations.filter fun a => match a.result with | .failed _ => true | _ => false).length

end Summary

def commaList (xs : List String) : String := ",".intercalate xs

namespace Plan

/-- The authorizations of the products. -/
def authorizationsQuery (p : Plan) : String :=
  let products := "in(product.id,(" ++ commaList p.productIds ++ "))"
  if p.authorizationIds.isEmpty then products
  else "and(" ++ products ++ ",in(id,(" ++ commaList p.authorizationIds ++ ")))"

/-- The agreements whose usage is billed, with their subscriptions and parameters. -/
def agreementsQuery (p : Plan) (authorizationId : String) : String :=
  "and(eq(authorization.id," ++ authorizationId ++ "),in(status,(Active,Updating)),in(product.id,("
    ++ commaList p.productIds ++ ")))&select=subscriptions,subscriptions.lines,parameters"

/-- The journals of an authorization for the period. -/
def journalsQuery (p : Plan) (authorizationId : String) : String :=
  "and(eq(authorization.id," ++ authorizationId ++ "),eq(externalIds.vendor," ++
    p.period.journalExternalId ++ "))"

/-- The `n`-th journal of an authorization for the period. -/
def newJournal (p : Plan) (authorizationId : String) (n : Nat) : NewJournal where
  name := p.period.journalName n
  authorizationId := authorizationId
  dueDate := p.period.endDate
  externalIds := ⟨some p.period.journalExternalId⟩

def details (p : Plan) (agreementId mpaId : String) : JournalDetails where
  agreementId := agreementId
  mpaId := mpaId
  startDate := p.period.startDate
  endDate := p.period.lastDay
  segment := p.segment

end Plan

/-- The subscription with whose items the paying account itself is billed: the first that is not
terminated. There is none when the account is billed elsewhere or has a subscription of its own. -/
def Agreement.mpaSubscription? (a : Agreement) (mpaId : String) : Option Subscription :=
  if a.isSplitBilling then none
  else if a.subscriptions.any fun s => s.accountId? == some mpaId then none
  else a.firstActiveSubscription?

namespace Generator

variable {σ : Type}

/-- What all passes of an agreement share. -/
structure Scope (σ : Type) where
  provider : ReportProvider σ
  marketplace : Report
  invoices : OrganizationInvoices
  details : JournalDetails

/-- The pending journal of the period, or else a new one. -/
def findOrCreateJournal (c : Collaborators σ) (p : Plan) (authorizationId : String) :
    Task σ String := do
  let query := p.journalsQuery authorizationId
  let journals ← Task.call (.journals query) (c.journals query)
  match journals.find? (·.isPending) with
  | some j => return j.id
  | none =>
    let new := p.newJournal authorizationId (journals.length + 1)
    return (← Task.call (.createJournal new) (c.createJournal new)).id

/-- Fetches the reports of an account and reconciles it. -/
def processAccount (p : Plan) (s : Scope σ) (accountId : String) (items : List SubscriptionLine) :
    Task σ AccountOutcome := do
  let recordTypes := CostQuery.recordTypes p.period accountId
  let recordTypeReport ← Task.provide (.costAndUsage recordTypes) (s.provider.costAndUsage recordTypes)
  let entities := CostQuery.invoiceEntities p.period accountId
  let entityReport ← Task.provide (.costAndUsage entities) (s.provider.costAndUsage entities)
  Task.compute <| AccountPass.outcome
    ⟨accountId, items, s.details, s.invoices, s.marketplace, recordTypeReport, entityReport⟩
    p.table p.logged

/-- Adds the pass of a subscription over an account, or tells why it failed. -/
def addPass (c : Collaborators σ) (p : Plan) (s : Scope σ) (agreementId : String)
    (o : AgreementOutcome) (subscription : Subscription) (accountId : String) :
    Run σ AgreementOutcome := do
  match ← (processAccount p s accountId subscription.lines).run with
  | .ok account => return o.addAccount accountId account
  | .error e =>
    Run.tell c {
      kind := .error
      title := "Billing journal failed for subscription " ++ subscription.id
      text := "Agreement " ++ agreementId ++ ": " ++ e.message }
    return o

/-- The passes of an agreement: one for each subscription that is not terminated and has an account,
and one for the paying account where it is not among them. -/
def passes (a : Agreement) (mpaId : String) : List (Subscription × String) :=
  (a.subscriptions.filterMap fun s =>
      if s.isTerminated then none else s.accountId?.map (s, ·))
    ++ ((a.mpaSubscription? mpaId).map (·, mpaId)).toList

/-- Connects to the provider, checks the invoices and makes the passes. -/
def reconcileAgreement (c : Collaborators σ) (p : Plan) (currency : String) (a : Agreement) :
    Task σ AgreementOutcome := do
  let mpaId ← match a.mpaId? with
    | some id => pure id
    | none => throw (.missingMpaAccount a.id)
  let provider ← Task.provide (.connect mpaId) (c.connect mpaId)
  let marketplace := CostQuery.marketplaceUsage p.period
  let marketplaceReport ← Task.provide (.costAndUsage marketplace) (provider.costAndUsage marketplace)
  let summaries ← Task.provide (.invoiceSummaries mpaId p.period)
    (provider.invoiceSummaries mpaId p.period)
  let invoices ← Task.compute (OrganizationInvoices.build summaries currency)
  Task.compute (Billing.ofExcept (invoices.checkPaymentCurrency currency))
  let scope : Scope σ := ⟨provider, marketplaceReport, invoices, p.details a.id mpaId⟩
  let o ← liftM <| (passes a mpaId).foldlM (fun o pass => addPass c p scope a.id o pass.1 pass.2) {}
  return { o with reports := { o.reports with
    marketplaceUsage := o.reports.marketplaceUsage.insert mpaId marketplaceReport
    organizationInvoices := o.reports.organizationInvoices.insert mpaId invoices } }

/-- Absorbs an agreement, or tells why it failed. -/
def addAgreement (c : Collaborators σ) (p : Plan) (context : AuthorizationContext) (a : Agreement) :
    Run σ AuthorizationContext := do
  match ← (reconcileAgreement c p context.authorization.currency a).run with
  | .ok o => return context.absorb o
  | .error e =>
    Run.tell c {
      kind := .error
      title := "Billing journal failed for agreement " ++ a.id
      text := e.message }
    return context

/-- The notice that closes an upload: an error that links the failed lines when there are some. -/
def closingNotice (p : Plan) (context : AuthorizationContext) (failedLinesId : Option String) :
    Notice :=
  let total := natText context.lines.length
  let of := " for authorization " ++ context.authorization.id ++ " (" ++ p.period.toText ++ ")"
  match failedLinesId with
  | some attachmentId => {
      kind := .error
      title := "Billing journal " ++ context.journalId ++ " has errors"
      text := natText context.invalidLines.length ++ " of " ++ total ++ " lines" ++ of
        ++ " could not be reconciled."
      button := some (p.portal.attachmentLink context.journalId attachmentId) }
  | none => {
      kind := .success
      title := "Billing journal " ++ context.journalId ++ " uploaded"
      text := total ++ " lines uploaded" ++ of ++ "."
      button := some (p.portal.journalLink context.journalId) }

/-- Uploads the file of lines, the failed lines and the archive, and then tells so. -/
def uploadJournal (c : Collaborators σ) (p : Plan) (context : AuthorizationContext) :
    Task σ AuthorizationResult := do
  let id := context.journalId
  let content := JournalLine.fileText context.lines
  let filename := journalFilename context.authorization.id p.period
  Task.call (.upload id content filename) (c.upload id content filename)
  let failedLinesId ← match failedLinesAttachment id context.lines with
    | some attachment => some <$> Task.call (.attach id attachment) (c.attach id attachment)
    | none => pure none
  let archive ← Task.compute (Billing.ofExcept (reportsAttachment id context.reports))
  let _ ← Task.call (.attach id archive) (c.attach id archive)
  liftM (Run.tell c (closingNotice p context failedLinesId))
  return .uploaded id context.lines.length context.invalidLines.length

/-- Bills the agreements of an authorization into its journal. -/
def generateAuthorization (c : Collaborators σ) (p : Plan) (authorization : Authorization) :
    Task σ AuthorizationResult := do
  let journalId ← findOrCreateJournal c p authorization.id
  let query := p.agreementsQuery authorization.id
  let agreements ← Task.call (.agreements query) (c.agreements query)
  if agreements.isEmpty then return .noAgreements journalId
  let context ← liftM <| agreements.foldlM (addAgreement c p) { authorization, journalId }
  if context.lines.isEmpty then return .noLines journalId
  uploadJournal c p context

/-- The summary of an authorization; its failure is told. -/
def summarize (c : Collaborators σ) (p : Plan) (authorization : Authorization) :
    Run σ AuthorizationSummary := do
  match ← (generateAuthorization c p authorization).run with
  | .ok result => return ⟨authorization.id, result⟩
  | .error e =>
    Run.tell c {
      kind := .error
      title := "Billing journal failed for " ++ authorization.id
      text := e.message }
    return ⟨authorization.id, .failed e.message⟩

/-- Generates the journal of every authorization. Only listing them can fail the run. -/
def generate (c : Collaborators σ) (p : Plan) : Task σ Summary := do
  let query := p.authorizationsQuery
  let authorizations ← Task.call (.authorizations query) (c.authorizations query)
  let summaries ← liftM ((authorizations.getD []).mapM (summarize c p))
  return ⟨p.period, summaries⟩

end Generator

end CostJournal
