import CostJournal.Archive
import CostJournal.Notice
import CostJournal.Query

/-!
# Collaborators of a run

A run talks to a catalog, a ledger, providers of reports and a notifier. Each answers from a state of
type `σ` and leaves a new one, and `Run` records every call, whether it succeeds or fails.
-/

namespace CostJournal

/-- The reports of one paying account. -/
structure ReportProvider (σ : Type) where
  costAndUsage : CostQuery → σ → Except ProviderFailure Report × σ
  /-- The invoices issued to an account in a month. -/
  invoiceSummaries : String → Period → σ → Except ProviderFailure (List InvoiceSummary) × σ

/-- The systems around a run. -/
structure Collaborators (σ : Type) where
  authorizations : String → σ → Except Failure (Option (List Authorization)) × σ
  agreements : String → σ → Except Failure (List Agreement) × σ
  journals : String → σ → Except Failure (List Journal) × σ
  createJournal : NewJournal → σ → Except Failure Journal × σ
  /-- Uploads a text to a journal under a file name. -/
  upload : (journalId content filename : String) → σ → Except Failure Unit × σ
  /-- Attaches a file to a journal, and answers the id of the attachment. -/
  attach : (journalId : String) → Attachment FileContent → σ → Except Failure String × σ
  connect : (mpaId : String) → σ → Except ProviderFailure (ReportProvider σ) × σ
  notify : Notice → σ → Except Failure Unit × σ

/-- One call to a collaborator. -/
inductive Call where
  | authorizations (query : String)
  | agreements (query : String)
  | journals (query : String)
  | createJournal (journal : NewJournal)
  | upload (journalId content filename : String)
  | attach (journalId : String) (attachment : Attachment FileContent)
  | connect (mpaId : String)
  | costAndUsage (query : CostQuery)
  | invoiceSummaries (accountId : String) (period : Period)
  | notify (notice : Notice)
deriving DecidableEq

/-- The state of the collaborators and the calls made so far, the first one first. -/
structure World (σ : Type) where
  state : σ
  calls : List Call := []

/-- A computation that talks to collaborators, and that running out of decimals ends; what it did to
the collaborators stays done. -/
abbrev Run (σ : Type) := ExceptT Overflow (StateM (World σ))

/-- A computation that may also fail, and that its caller may go on after. -/
abbrev Task (σ : Type) := ExceptT Failure (Run σ)

namespace Run

variable {σ α : Type}

/-- Makes one call. -/
def perform (call : Call) (answer : σ → α × σ) : Run σ α := ExceptT.mk fun w =>
  let (a, state) := answer w.state
  (.ok a, { state, calls := w.calls ++ [call] })

/-- What comes of a run that starts in a state, and the world after it. -/
def startingFrom (state : σ) (x : Run σ α) : Checked α × World σ := (ExceptT.run x).run { state }

/-- Notifies without regard to whether the notice arrives. -/
def tell (c : Collaborators σ) (n : Notice) : Run σ Unit := do
  let _ ← perform (.notify n) (c.notify n)

end Run

namespace Task

variable {σ α : Type}

/-- A call whose failure is the task's. -/
def call (call : Call) (answer : σ → Except Failure α × σ) : Task σ α :=
  ExceptT.mk (Run.perform call answer)

/-- A call to a provider of reports, whose failure is the task's. -/
def provide (call : Call) (answer : σ → Except ProviderFailure α × σ) : Task σ α :=
  ExceptT.mk do
    match ← Run.perform call answer with
    | .ok a => return .ok a
    | .error e => return .error e.toFailure

/-- A computation without calls. -/
def compute (x : Billing Failure α) : Task σ α :=
  ExceptT.mk (ExceptT.mk (pure x.run))

end Task

end CostJournal
