import CostJournal.Decimal.Basic

/-!
# Failures

`Failure` stops a unit of work: an authorization, an agreement or a subscription. `LineFailure`
stops one processor and becomes a line of the journal. Running out of decimals is neither: it ends
the run, so every computation with amounts lives in `Billing`, below which it stays visible.
-/

namespace CostJournal

inductive Failure where
  | provider (text : String)
  | ledger (text : String)
  | commerce (text : String)
  | notification (text : String)
  | currencyMismatch (currency entity paymentCurrency : String)
  | missingMpaAccount (agreementId : String)
  | invalidPeriod (text : String)
  | validation (text : String)
  | serialization (text : String)
  | archive (text : String)
  | config (text : String)
  | internal (text : String)
deriving DecidableEq

namespace Failure

/-- The stable name of the kind of failure. -/
def code : Failure → String
  | provider _ => "provider_error"
  | ledger _ => "ledger_error"
  | commerce _ => "commerce_error"
  | notification _ => "notification_error"
  | currencyMismatch .. => "currency_mismatch"
  | missingMpaAccount _ => "missing_mpa_account"
  | invalidPeriod _ => "invalid_period"
  | validation _ => "validation_error"
  | serialization _ => "serialization_error"
  | archive _ => "archive_error"
  | config _ => "config_error"
  | internal _ => "internal_error"

def message : Failure → String
  | provider text => "AWS provider error: " ++ text
  | ledger text => "Ledger API error: " ++ text
  | commerce text => "Commerce API error: " ++ text
  | notification text => "Notification error: " ++ text
  | currencyMismatch currency entity paymentCurrency =>
    "Currency mismatch: authorization currency " ++ currency ++ " does not match payment currency "
      ++ paymentCurrency ++ " of invoice entity " ++ entity
  | missingMpaAccount agreementId => "Agreement " ++ agreementId ++ " has no MPA account id"
  | invalidPeriod text => "Invalid billing period: " ++ text
  | validation text => "Validation error: " ++ text
  | serialization text => "Serialization error: " ++ text
  | archive text => "Archive error: " ++ text
  | config text => "Configuration error: " ++ text
  | internal text => "Internal error: " ++ text

end Failure

/-- A line that could not be produced for a service. -/
structure LineFailure where
  serviceName : String
  amount : Decimal
  message : String
deriving DecidableEq

/-- A computation that fails with an `ε`, or runs out of decimals. -/
abbrev Billing (ε : Type) := ExceptT ε Checked

namespace Billing

variable {ε α : Type}

def ofExcept (x : Except ε α) : Billing ε α := ExceptT.mk (pure x)

end Billing

end CostJournal
