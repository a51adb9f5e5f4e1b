import CostJournal.Main
import CostJournal.Rehearsal
import CostJournal.Proofs.Account.Lines
import CostJournal.Proofs.SortedMap
import CostJournal.Proofs.Account.Billed
import CostJournal.Proofs.Account.Pass
import CostJournal.Proofs.Account.Coverage
import CostJournal.Proofs.Account.Shortfall
import CostJournal.Proofs.Runs
import CostJournal.Proofs.Agreement.Passes
import CostJournal.Proofs.Agreement.Admission
import CostJournal.Proofs.Agreement.PayingAccount
import CostJournal.Proofs.Agreement.DoubleReports
import CostJournal.Proofs.Invoices.Entities
import CostJournal.Proofs.Invoices.Rates
import CostJournal.Proofs.Invoices.Conversion
import CostJournal.Proofs.Turns
import CostJournal.Proofs.Agreement.Isolation
import CostJournal.Proofs.Alike
import CostJournal.Proofs.Authorization.Serving
import CostJournal.Proofs.Authorization.Separate
import CostJournal.Proofs.Authorization.Notifiers
import CostJournal.Proofs.Authorization.Stages
import CostJournal.Proofs.Ledger.Holdings
import CostJournal.Proofs.Ledger.Containers
import CostJournal.Proofs.Archive
import CostJournal.Proofs.Ledger.Log
import CostJournal.Proofs.Authorization.Protocol
import CostJournal.Proofs.CutShort
import CostJournal.Proofs.Decimal.Range
import CostJournal.Proofs.Decimal.RoundsTo
import CostJournal.Proofs.Discount.Percentages
import CostJournal.Proofs.Account.OutOfRange
import CostJournal.Proofs.Authorization.CutShort
import CostJournal.Proofs.Account.Provenance
import CostJournal.Proofs.Authorization.Attribution
import CostJournal.Proofs.Text.Digits
import CostJournal.Proofs.Json.Numbers
import CostJournal.Proofs.Json.Texts
import CostJournal.Proofs.Json.Printing
import CostJournal.Proofs.Decimal.Text
import CostJournal.Proofs.Json.Decoding
import CostJournal.Proofs.Archive.Restored
import CostJournal.Proofs.Calendar.Date
import CostJournal.Proofs.Binary64.Texts
import CostJournal.Proofs.Binary64.Rounding
import CostJournal.Proofs.Binary64.Digits
import CostJournal.Proofs.Binary64.Reading
import CostJournal.Proofs.Json.Prices
import CostJournal.Proofs.Journal.Records
import CostJournal.Proofs.Journal.FailedLines
import CostJournal.Proofs.Text.Blank
import CostJournal.Proofs.Amount.Separators
import CostJournal.Proofs.Amount.Notations
import CostJournal.Proofs.Decimal.Characters
import CostJournal.Proofs.Amount.LoneComma
import CostJournal.Proofs.Account.Families
import CostJournal.Proofs.Archive.Gathered
import CostJournal.Proofs.Account.Admissible
import CostJournal.Proofs.Invoices.StoredRates
import CostJournal.Proofs.HalfEven
import CostJournal.Proofs.Decimal.Nearest
import CostJournal.Proofs.Invoices.Charges
import CostJournal.Proofs.Decimal.Sums
import CostJournal.Proofs.Account.Costs
import CostJournal.Proofs.Account.Rearranged
import CostJournal.Proofs.Discount.Verdicts
import CostJournal.Proofs.Discount.Tiers
import CostJournal.Proofs.Account.Remembered
import CostJournal.Proofs.Marketplace.Pages
import CostJournal.Proofs.Calendar.Order
import CostJournal.Proofs.Calendar.Periods
import CostJournal.Proofs.Invoices.Drift
import CostJournal.Proofs.Agreement.Selection
