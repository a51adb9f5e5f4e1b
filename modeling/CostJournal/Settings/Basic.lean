import CostJournal.Http.Url
import CostJournal.Settings.Billing
import CostJournal.Settings.Value

/-!
# Settings

What the program is told about its surroundings, and which values make sense.
-/

namespace CostJournal

structure MarketplaceSettings where
  apiBaseUrl : String
  apiToken : String
  portalBaseUrl : String
  timeoutSeconds : Nat := 30
  pageSize : Nat := 100
deriving DecidableEq

structure LogSettings where
  level : String := "info"
  /-- The log is written as JSON. -/
  json : Bool := false
deriving DecidableEq

structure Settings where
  marketplace : MarketplaceSettings
  /-- The channel for notices; without it they are only logged. -/
  webhookUrl : Option String
  snapshotDirectory : String
  billing : BillingSettings
  log : LogSettings
deriving DecidableEq

/-- A setting whose value makes no sense. -/
inductive InvalidSetting where
  | noProducts
  | negativeTolerance
  | apiBaseUrl
  | portalBaseUrl
  | webhookUrl
deriving DecidableEq

def InvalidSetting.message : InvalidSetting → String
  | noProducts => "billing.product_ids: Validation error: length"
  | negativeTolerance => "billing.tolerance_rate: Validation error: negative"
  | apiBaseUrl => "mpt.api_base_url: Validation error: url"
  | portalBaseUrl => "mpt.portal_base_url: Validation error: url"
  | webhookUrl => "notifications.teams_webhook_url: Validation error: url"

/-- Why there are no settings. -/
inductive SettingsFailure where
  /-- A source, or the value of a setting, cannot be read. -/
  | unreadable
  | invalid (settings : List InvalidSetting)
deriving DecidableEq

namespace Settings

/-- Fields of a table with their settings. -/
abbrev Fields := List (String × Setting)

def field? {α : Type} (fields : Fields) (name : String) (read : Setting → Option α) : Option α :=
  (fields.lookup name).bind read

def fieldOr {α : Type} (fields : Fields) (name : String) (read : Setting → Option α) (absent : α) :
    Option α :=
  match fields.lookup name with
  | some s => read s
  | none => some absent

def marketplace? (s : Setting) : Option MarketplaceSettings := do
  let fs ← s.toRecord? ["api_base_url", "api_token", "portal_base_url", "timeout_secs", "page_size"]
  return {
    apiBaseUrl := ← field? fs "api_base_url" Setting.toText?
    apiToken := ← field? fs "api_token" Setting.toText?
    portalBaseUrl := ← field? fs "portal_base_url" Setting.toText?
    timeoutSeconds := ← fieldOr fs "timeout_secs" (Setting.toNatural? (twoPow 64)) 30
    pageSize := ← fieldOr fs "page_size" (Setting.toNatural? (twoPow 32)) 100 }

def optionalText? : Setting → Option (Option String)
  | .nothing => some none
  | s => s.toText?.map some

/-- The address of the channel; a list in place of the table has to hold it. -/
def webhookUrl? : Setting → Option (Option String)
  | .table fields => fieldOr fields "teams_webhook_url" optionalText? none
  | .list (s :: _) => optionalText? s
  | _ => none

def snapshotDirectory? (s : Setting) : Option String := do
  field? (← s.toRecord? ["snapshot_dir"]) "snapshot_dir" Setting.toText?

def discounts? (s : Setting) : Option Discounts := do
  let fs ← s.toRecord? Discounts.fieldNames
  Discounts.read? fun name absent => fieldOr fs name Setting.toDecimal? absent

def billing? (s : Setting) : Option BillingSettings := do
  let fs ← s.toRecord? BillingSettings.fieldNames
  return {
    productIds := ← field? fs "product_ids" Setting.toTexts?
    tolerance := ← fieldOr fs "tolerance_rate" Setting.toDecimal? .one
    segment := ← fieldOr fs "segment" Setting.toText? "COM"
    discounts := ← fieldOr fs "discounts" discounts? .standard }

def log? (s : Setting) : Option LogSettings := do
  let fs ← s.toRecord? ["level", "json"]
  return ⟨← fieldOr fs "level" Setting.toText? "info", ← fieldOr fs "json" Setting.toFlag? false⟩

def ofSetting? (s : Setting) : Option Settings := do
  let fs := s.fields
  return {
    marketplace := ← field? fs "mpt" marketplace?
    webhookUrl := ← fieldOr fs "notifications" webhookUrl? none
    snapshotDirectory := ← field? fs "aws" snapshotDirectory?
    billing := ← field? fs "billing" billing?
    log := ← fieldOr fs "log" log? {} }

def isUrl (s : String) : Bool := (Url.ofText? s).isSome

/-- The settings that make no sense. -/
def problems (s : Settings) : List InvalidSetting :=
  [(InvalidSetting.noProducts, s.billing.productIds.isEmpty),
    (.negativeTolerance, s.billing.tolerance.negative),
    (.apiBaseUrl, !isUrl s.marketplace.apiBaseUrl),
    (.portalBaseUrl, !isUrl s.marketplace.portalBaseUrl),
    (.webhookUrl, s.webhookUrl.any (!isUrl ·))].filterMap fun p => if p.2 then some p.1 else none

/-- Reads settings and checks them. -/
def read (s : Setting) : Except SettingsFailure Settings :=
  match ofSetting? s with
  | none => .error .unreadable
  | some settings =>
    match settings.problems with
    | [] => .ok settings
    | problems => .error (.invalid problems)

end Settings

end CostJournal
