import CostJournal.Agreement
import CostJournal.Calendar.Date

/-!
# Journals

A journal is the ledger's container of one billing file. It stays open for uploads while its status
is pending.
-/

namespace CostJournal

inductive JournalStatus where
  | draft
  | validating
  | validated
  | review
  | error
  | accepted
  | completed
  | deleted
  | unknown
deriving DecidableEq

/-- A pending journal still takes uploads, and the next run uses it again. -/
def JournalStatus.isPending : JournalStatus → Bool
  | draft | validating | validated | review | error => true
  | accepted | completed | deleted | unknown => false

structure Journal where
  id : String
  name : Option String
  status : JournalStatus
  externalIds : VendorIds
deriving DecidableEq

def Journal.isPending (j : Journal) : Bool := j.status.isPending

/-- A journal to be created. -/
structure NewJournal where
  name : String
  authorizationId : String
  dueDate : Date
  externalIds : VendorIds
deriving DecidableEq

/-- A file attached to a journal. -/
structure Attachment (content : Type) where
  filename : String
  mimeType : String
  name : String
  description : String
  content : content
deriving DecidableEq

/-- What all lines of an agreement share. -/
structure JournalDetails where
  agreementId : String
  mpaId : String
  startDate : Date
  endDate : Date
  segment : String
deriving DecidableEq

open Json

def JournalStatus.ofName (name : String) : JournalStatus :=
  if name = "Draft" then draft
  else if name = "Validating" then validating
  else if name = "Validated" then validated
  else if name = "Review" then review
  else if name = "Error" then error
  else if name = "Accepted" then accepted
  else if name = "Completed" then completed
  else if name = "Deleted" then deleted
  else unknown

def JournalStatus.name : JournalStatus → String
  | draft => "Draft"
  | validating => "Validating"
  | validated => "Validated"
  | review => "Review"
  | error => "Error"
  | accepted => "Accepted"
  | completed => "Completed"
  | deleted => "Deleted"
  | unknown => "Unknown"

def Json.date? (j : Json) : Option Date := j.text?.bind Date.ofText?

def Json.ofDate (d : Date) : Json := .string d.toText

def Journal.ofJson? (j : Json) : Option Journal := do
  let r ← j.record? ["id", "name", "status", "externalIds"]
  return ⟨← r.required "id" text?, ← r.optional "name" text?, .ofName (← r.required "status" choice?),
    ← r.withDefault "externalIds" VendorIds.ofJson? {}⟩

def Journal.toJson (j : Journal) : Json :=
  .object [("id", .string j.id), ("name", ofOption .string j.name), ("status", .string j.status.name),
    ("externalIds", j.externalIds.toJson)]

def NewJournal.ofJson? (j : Json) : Option NewJournal := do
  let r ← j.record? ["name", "authorization", "dueDate", "externalIds"]
  return ⟨← r.required "name" text?, ← r.required "authorization" referenceId?,
    ← r.required "dueDate" Json.date?, ← r.required "externalIds" VendorIds.ofJson?⟩

def NewJournal.toJson (j : NewJournal) : Json :=
  .object [("name", .string j.name), ("authorization", referenceJson j.authorizationId),
    ("dueDate", Json.ofDate j.dueDate), ("externalIds", j.externalIds.toJson)]

end CostJournal
