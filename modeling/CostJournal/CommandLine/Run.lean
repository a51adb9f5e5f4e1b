import CostJournal.CommandLine.Arguments
import CostJournal.CommandLine.LogFilter
import CostJournal.Generator.Basic
import CostJournal.Marketplace.Client
import CostJournal.Recording
import CostJournal.Settings.Sources
import CostJournal.Webhook

/-!
# Running the program

From arguments, files, the environment and what servers answer to an exit status, the requests that
were sent and the paths of the files that were looked for. The settings are read first, then the
period is checked, then the journals are generated.
-/

namespace CostJournal

/-- All that a run depends on. -/
structure Surroundings where
  arguments : List String
  environment : Environment
  files : FileTree
  today : Date
  answers : List ServerAnswer

/-- How the program ends. -/
inductive Exit where
  | success
  | failure (text : String)
  /-- The arguments are not understood. -/
  | usage
  /-- Decimals ran out. -/
  | overflow (e : Overflow)
deriving DecidableEq

namespace Exit

def status : Exit → Nat
  | success => 0
  | failure _ => 1
  | usage => 2
  | overflow _ => 101

def failureText? : Exit → Option String
  | failure text => some text
  | _ => none

end Exit

namespace Surroundings

def configVariable : String := "AWS_BILLING_CONFIG"

/-- The file of settings that is named, by an argument or by a variable. -/
def config? (s : Surroundings) (a : Arguments) : Option String :=
  a.config.or (s.environment.get? configVariable)

/-- The settings from the file that is named, or else from all sources. -/
def settings (s : Surroundings) (a : Arguments) : Except SettingsFailure Settings :=
  match s.config? a with
  | some name => Settings.ofFile s.files s.environment name
  | none => Settings.load s.files s.environment

/-- The paths of the files that the settings may be in. -/
def settingsPaths (s : Surroundings) (a : Arguments) : List String :=
  (match s.config? a with
    | some name => [name]
    | none => Settings.modeFiles s.environment).flatMap Settings.candidates

/-- The month that was asked for, or else the one before today's. -/
def period (s : Surroundings) (a : Arguments) : Except Failure Period :=
  match a.year, a.month with
  | some y, some m => Period.ofMonth y m
  | _, _ => .ok (.previous s.today)

end Surroundings

/-- The target of all events about journals. -/
def journalTarget : String := "aws_billing_journal::generator"

/-- The total of an account is told, in the spans of the run, the authorization, the agreement and the
account. -/
def totalEvent : LogEvent where
  target := journalTarget
  level := .info
  fields := ["message", "amount", "lines"]
  spans :=
    [⟨journalTarget, "generate_billing_journals", ["period"]⟩,
      ⟨journalTarget, "generate_authorization_journal", ["authorization_id"]⟩,
      ⟨journalTarget, "reconcile_agreement", ["agreement_id"]⟩,
      ⟨journalTarget, "process_account", ["account_id"]⟩]

/-- The starts of the program's own targets. -/
def ownTargets : List String :=
  ["aws_billing", "aws_billing_journal", "aws_billing_clients", "aws_billing_core"]

/-- The filter that a variable holds, or else the program's own targets up to the level that is set. -/
def logFilter (e : Environment) (log : LogSettings) : LogFilter :=
  match (e.get? "RUST_LOG").bind LogFilter.ofText? with
  | some filter => filter
  | none =>
    let level := (e.get? "LOG_LEVEL").getD log.level
    .ofReadable (String.intercalate "," (ownTargets.map fun target => target ++ "=" ++ level))

/-- Without a channel, notices are only logged. -/
def Settings.notify (s : Settings) (n : Notice) (c : Conversation) :
    Except Failure Unit × Conversation :=
  match s.webhookUrl with
  | some url => Webhook.notify ⟨url⟩ n c
  | none => (.ok (), c)

/-- The marketplace, the recorded reports and the channel for notices. -/
def collaborators (s : Settings) (client : MarketplaceClient) (files : FileTree) :
    Collaborators Conversation where
  authorizations := client.authorizations
  agreements := client.agreements
  journals := client.journals
  createJournal := client.createJournal
  upload := client.upload
  attach := client.attach
  connect := SnapshotDirectory.connect ⟨files, s.snapshotDirectory⟩
  notify := s.notify

def plan (s : Settings) (a : Arguments) (p : Period) (log : LogFilter) : Plan where
  period := p
  productIds := if a.productIds.isEmpty then s.billing.productIds else a.productIds
  authorizationIds := a.authorizationIds
  table := Processor.table s.billing
  segment := s.billing.segment
  portal := .ofBase s.marketplace.portalBaseUrl
  logged := log.enables totalEvent

/-- How a run ends, what it sent, and which files it looked for. -/
structure Ending where
  exit : Exit
  requests : List Request := []
  paths : List String := []

/-- The paths of the recordings that a run connected to. -/
def recordingPaths (s : Settings) (calls : List Call) : List String :=
  calls.flatMap fun
    | .connect mpaId => SnapshotDirectory.paths ⟨⟨[]⟩, s.snapshotDirectory⟩ mpaId
    | _ => []

/-- Generates the journals of a period. -/
def Surroundings.generate (s : Surroundings) (a : Arguments) (settings : Settings) (p : Period) :
    Ending :=
  let m := settings.marketplace
  match MarketplaceClient.create m.apiBaseUrl m.apiToken m.pageSize with
  | .error _ => { exit := .failure "Failed to create MPT client" }
  | .ok client =>
    let log := logFilter s.environment settings.log
    let run := Generator.generate (collaborators settings client s.files) (plan settings a p log)
    let (result, w) := run.run |> Run.startingFrom {
      answers := s.answers, proxies := .ofVariables s.environment.get? }
    let exit : Exit := match result with
      | .error e => .overflow e
      | .ok (.ok _) => .success
      | .ok (.error _) => .failure "Billing journal generation failed"
    { exit, requests := w.state.requests, paths := recordingPaths settings w.calls }

/-- Reads the settings and the period, and generates the journals. -/
def Surroundings.execute (s : Surroundings) (a : Arguments) : Ending :=
  match s.settings a, s.period a with
  | .error _, _ => { exit := .failure "Failed to load configuration", paths := s.settingsPaths a }
  | .ok _, .error e => { exit := .failure e.message, paths := s.settingsPaths a }
  | .ok settings, .ok p =>
    let ending := s.generate a settings p
    { ending with paths := s.settingsPaths a ++ ending.paths }

/-- Runs the program. -/
def Surroundings.run (s : Surroundings) : Ending :=
  let s := { s with environment := s.environment.filled s.files }
  let ending : Ending := match Arguments.read? none false s.arguments with
    | none => { exit := .usage }
    | some .information => { exit := .success }
    | some (.generate a) => s.execute a
  { ending with paths := EnvironmentFile.name :: ending.paths }

end CostJournal
