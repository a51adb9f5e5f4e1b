import CostJournal.FileTree
import CostJournal.Generator.Collaborators
import CostJournal.Json.Reader

/-!
# Recorded reports

A recording answers queries from responses that were kept earlier. Recordings of paying accounts are
kept in directories, one for each account.
-/

namespace CostJournal

/-- A query that was answered. Its period counts only where it was kept. -/
structure RecordedRequest where
  timePeriod : Option TimePeriod
  groupBy : List GroupDefinition
  filter : Option ReportFilter
  response : Report
deriving DecidableEq

/-- An invoice, with the year and the month that it is for where they were kept. -/
structure RecordedInvoice where
  year : Option Int
  month : Option Nat
  summary : InvoiceSummary
deriving DecidableEq

structure Recording where
  requests : List RecordedRequest := []
  invoices : List RecordedInvoice := []
deriving DecidableEq

def RecordedRequest.answers (r : RecordedRequest) (q : CostQuery) : Bool :=
  (match r.timePeriod with
    | some p => p.start == q.start.toText && p.end == q.end.toText
    | none => true)
  && r.groupBy == q.groupBy && r.filter == q.filter

def RecordedInvoice.isOf (r : RecordedInvoice) (accountId : String) (year : Int) (month : Nat) : Bool :=
  r.summary.accountId == accountId && r.year.all (· == year) && r.month.all (· == month)

namespace Recording

/-- The response to the first matching query, or else an empty report. -/
def costAndUsage (r : Recording) (q : CostQuery) : Report :=
  match r.requests.find? (·.answers q) with
  | some request => request.response
  | none => .empty

def invoiceSummaries (r : Recording) (accountId : String) (year : Int) (month : Nat) :
    List InvoiceSummary :=
  (r.invoices.filter (·.isOf accountId year month)).map (·.summary)

/-- A provider that answers from the recording and never fails. -/
def provider {σ : Type} (r : Recording) : ReportProvider σ where
  costAndUsage q s := (.ok (r.costAndUsage q), s)
  invoiceSummaries accountId p s := (.ok (r.invoiceSummaries accountId p.year p.month), s)

end Recording

open Json

def RecordedRequest.ofJson? (j : Json) : Option RecordedRequest := do
  let r ← j.record? ["TimePeriod", "GroupBy", "Filter", "Response"]
  return ⟨← r.optional "TimePeriod" TimePeriod.ofJson?,
    ← r.withDefault "GroupBy" (list? GroupDefinition.ofJson?) [],
    ← r.optional "Filter" ReportFilter.ofJson?, ← r.required "Response" Report.ofJson?⟩

/-- Reads an object with the fields of an invoice and two of its own; the others have to be values. -/
def RecordedInvoice.ofJson? (j : Json) : Option RecordedInvoice := do
  let .object _ := j | none
  let r ← j.record? ("Year" :: "Month" :: InvoiceSummary.fieldNames)
  if j.isReadable && decide (j.depth < maxDepth) then
    return ⟨← r.optional "Year" int32?, ← r.optional "Month" (natural? (twoPow 32)),
      ← InvoiceSummary.ofRecord? r⟩
  else none

/-- Directories with one recording for each paying account. -/
structure SnapshotDirectory where
  tree : FileTree
  path : String

namespace SnapshotDirectory

def requestsFile : String := "cost_and_usage.json"

def invoicesFile : String := "invoice_summaries.json"

/-- The list in a file; a missing file is an empty list. -/
def readList {α : Type} (tree : FileTree) (item : Json → Option α) (path : String) :
    Except ProviderFailure (List α) :=
  match tree.lookup path with
  | .missing => .ok []
  | .blocked => .error (.request ("Failed to read " ++ path ++ ": Not a directory (os error 20)"))
  | .directory => .error (.request ("Failed to read " ++ path ++ ": Is a directory (os error 21)"))
  | .file text =>
    match (Json.ofText? text).bind (list? item) with
    | some xs => .ok xs
    | none => .error (.request ("Invalid snapshot " ++ path ++ ": " ++ Json.unreadableText))

/-- The recording of a paying account. -/
def recording (d : SnapshotDirectory) (mpaId : String) : Except ProviderFailure Recording := do
  let dir := FileTree.join d.path mpaId
  match d.tree.lookup dir with
  | .missing | .blocked => throw (.credentials mpaId ("no snapshot directory at " ++ dir))
  | .directory | .file _ =>
    let requests ← readList d.tree RecordedRequest.ofJson? (FileTree.join dir requestsFile)
    let invoices ← readList d.tree RecordedInvoice.ofJson? (FileTree.join dir invoicesFile)
    return ⟨requests, invoices⟩

/-- The paths that a recording is read from. -/
def paths (d : SnapshotDirectory) (mpaId : String) : List String :=
  let dir := FileTree.join d.path mpaId
  [dir, FileTree.join dir requestsFile, FileTree.join dir invoicesFile]

def connect {σ : Type} (d : SnapshotDirectory) (mpaId : String) (s : σ) :
    Except ProviderFailure (ReportProvider σ) × σ :=
  ((d.recording mpaId).map Recording.provider, s)

end SnapshotDirectory

end CostJournal
