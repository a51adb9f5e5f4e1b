import CostJournal.Failure
import CostJournal.Outcome
import CostJournal.Period

/-!
# Files of a journal

The names and contents of what is uploaded to a journal: the file of its lines, the lines that could
not be charged, and an archive of the reports behind them.
-/

namespace CostJournal

/-- The content of a file: text, or an archive of named texts. -/
inductive FileContent where
  | text (s : String)
  | archive (entries : List (String × String))
deriving DecidableEq

def journalFilename (authorizationId : String) (p : Period) : String :=
  "journal-" ++ authorizationId ++ "-" ++ p.toText ++ ".jsonl"

/-- The lines that are not valid; none when all are. -/
def failedLinesAttachment (journalId : String) (lines : List JournalLine) :
    Option (Attachment FileContent) :=
  match lines.filter (!·.isValid) with
  | [] => none
  | invalid => some {
      filename := "failed-journal-lines-" ++ journalId ++ ".jsonl"
      mimeType := "application/jsonl"
      name := "Failed journal lines"
      description := natText invalid.length ++ " journal lines could not be reconciled"
      content := .text (JournalLine.fileText invalid) }

namespace OrganizationReports

/-- A name and a text for each report of each account, and then for the reports of the paying
accounts and for their invoices. -/
def archiveEntries (r : OrganizationReports) : List (String × String) :=
  (r.accounts.entries.flatMap fun a =>
      a.2.entries.map fun e => (a.1 ++ " - " ++ e.1 ++ ".json", e.2.toJson.pretty))
    ++ [("MarketplaceUsageReport.json", (Json.ofMap Report.toJson r.marketplaceUsage).pretty),
      ("OrganizationInvoices.json",
        (Json.ofMap OrganizationInvoices.toJson r.organizationInvoices).pretty)]

/-- The first name that an earlier entry has as well. -/
def repeatedName? : List String → List String → Option String
  | _, [] => none
  | seen, name :: rest => if seen.contains name then some name else repeatedName? (name :: seen) rest

/-- The archive, whose names have to be distinct. -/
def archive (r : OrganizationReports) : Except Failure (List (String × String)) :=
  match repeatedName? [] (r.archiveEntries.map (·.1)) with
  | some name => .error (.archive ("invalid Zip archive: Duplicate filename: " ++ name))
  | none => .ok r.archiveEntries

end OrganizationReports

def reportsAttachment (journalId : String) (r : OrganizationReports) :
    Except Failure (Attachment FileContent) := do
  return {
    filename := "reports-" ++ journalId ++ ".zip"
    mimeType := "application/zip"
    name := "AWS reports"
    description := "Cost and usage reports used to generate the journal"
    content := .archive (← r.archive) }

end CostJournal
