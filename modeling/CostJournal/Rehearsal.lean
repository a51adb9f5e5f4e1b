import CostJournal.Generator.Basic
import CostJournal.Recording

/-!
# Rehearsals

A run against systems in memory: a catalog of given authorizations and agreements, a ledger that
keeps its journals from run to run, recorded reports, and failures by name of the call. The ledger
answers a query with the journals of its authorization whose vendor id the query names.
-/

namespace CostJournal

namespace Rehearsal

/-- The text after the first occurrence of a pattern. -/
def after? (pattern : List Char) : List Char → Option (List Char)
  | [] => if pattern.isEmpty then some [] else none
  | c :: cs =>
    if pattern.isPrefixOf (c :: cs) then some ((c :: cs).drop pattern.length) else after? pattern cs

def mentions (text pattern : String) : Bool := (after? pattern.toList text.toList).isSome

/-- The authorization that a query is about. -/
def authorizationOf (query : String) : String :=
  String.ofList (((after? "eq(authorization.id,".toList query.toList).getD []).takeWhile (· != ')'))

/-- A provider's recording, and the texts of the requests that fail. -/
structure Provider where
  recording : Recording := {}
  failures : SortedMap String := .empty

structure Script where
  authorizations : Option (List Authorization) := none
  agreements : SortedMap (List Agreement) := .empty
  commerceFailures : SortedMap String := .empty
  ledgerFailures : SortedMap String := .empty
  providers : SortedMap Provider := .empty
  notifierFails : Bool := false

/-- The journals of the ledger with their authorizations, and how many it has created and how many
attachments it has taken. -/
structure Ledger where
  journals : List (String × Journal) := []
  created : Nat := 0
  attached : Nat := 0

namespace Ledger

/-- The journals of an authorization without a vendor id, or with one that the query names. -/
def query (l : Ledger) (query : String) : List Journal :=
  (l.journals.filter fun e =>
    e.1 == authorizationOf query
      && e.2.externalIds.vendor.all fun v => mentions query ("eq(externalIds.vendor," ++ v ++ ")")).map (·.2)

def create (l : Ledger) (n : NewJournal) : Journal × Ledger :=
  let journal : Journal := ⟨"BJO-" ++ natText (l.created + 1), some n.name, .draft, n.externalIds⟩
  (journal, { l with journals := l.journals ++ [(n.authorizationId, journal)], created := l.created + 1 })

def setStatus (l : Ledger) (journalId : String) (s : JournalStatus) : Ledger :=
  { l with journals := l.journals.map fun e =>
      if e.2.id = journalId then (e.1, { e.2 with status := s }) else e }

end Ledger

/-- The answer, unless a failure is written for the key. -/
def unlessFails {ε α : Type} (failures : SortedMap String) (key : String) (failure : String → ε)
    (l : Ledger) (answer : α × Ledger) : Except ε α × Ledger :=
  match failures.get? key with
  | some text => (.error (failure text), l)
  | none => (.ok answer.1, answer.2)

/-- The first dimension of a query and the first value of its filter. -/
def queryKey (q : CostQuery) : String :=
  ((q.groupBy.head?.map (·.key)).getD "") ++ ":" ++ ((q.filter.bind (·.values.head?)).getD "")

def Provider.toReportProvider (p : Provider) : ReportProvider Ledger where
  costAndUsage q l := unlessFails p.failures (queryKey q) .request l (p.recording.costAndUsage q, l)
  invoiceSummaries accountId period l :=
    unlessFails p.failures "INVOICES" .request l
      (p.recording.invoiceSummaries accountId period.year period.month, l)

def Script.connect (s : Script) (mpaId : String) (l : Ledger) :
    Except ProviderFailure (ReportProvider Ledger) × Ledger :=
  match s.providers.get? mpaId with
  | some p => unlessFails p.failures "CONNECT" .request l (p.toReportProvider, l)
  | none => (.error (.credentials mpaId "AccessDenied"), l)

def Script.collaborators (s : Script) : Collaborators Ledger where
  authorizations _ l := unlessFails s.commerceFailures "authorizations" .commerce l (s.authorizations, l)
  agreements query l :=
    let id := authorizationOf query
    unlessFails s.commerceFailures ("agreements:" ++ id) .commerce l ((s.agreements.get? id).getD [], l)
  journals query l :=
    unlessFails s.ledgerFailures ("query:" ++ authorizationOf query) .ledger l (l.query query, l)
  createJournal n l := unlessFails s.ledgerFailures ("create:" ++ n.authorizationId) .ledger l (l.create n)
  upload journalId _ _ l := unlessFails s.ledgerFailures ("upload:" ++ journalId) .ledger l ((), l)
  attach _ a l :=
    unlessFails s.ledgerFailures ("attachment:" ++ a.filename) .ledger l
      ("JOA-" ++ natText (l.attached + 1), { l with attached := l.attached + 1 })
  connect := s.connect
  notify _ l :=
    (if s.notifierFails then .error (.notification "webhook unreachable") else .ok (), l)

/-- One run over the ledger: the summary or the failure of the run, the calls, and the ledger after. -/
def run (s : Script) (p : Plan) (l : Ledger) :
    Checked (Except Failure Summary × List Call × Ledger) := do
  let (result, w) := (Generator.generate s.collaborators p).run |> Run.startingFrom l
  return (← result, w.calls, w.state)

end Rehearsal

end CostJournal
