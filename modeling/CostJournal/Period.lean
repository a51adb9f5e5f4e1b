import CostJournal.Calendar.Date
import CostJournal.Failure

/-!
# Billing periods

A period is a month of the calendar. It gives the bounds of every report request and the names of
the journals kept for it.
-/

namespace CostJournal

open Calendar

@[ext]
structure Period where
  year : Int
  month : Nat
  month_pos : 1 ≤ month
  month_le : month ≤ 12
deriving DecidableEq

namespace Period

def monthNames : List String :=
  ["January", "February", "March", "April", "May", "June", "July", "August", "September", "October",
    "November", "December"]

/-- The period of a month whose first day is a date. -/
def ofMonth (year : Int) (month : Nat) : Except Failure Period :=
  if h : 1 ≤ month ∧ month ≤ 12 then
    if IsDay year month 1 then .ok ⟨year, month, h.1, h.2⟩
    else .error (.invalidPeriod ("year " ++ intText year ++ " out of range"))
  else .error (.invalidPeriod ("month must be between 1 and 12, got " ++ natText month))

/-- The month before the one of `today`. -/
def previous (today : Date) : Period :=
  if h : today.month = 1 then ⟨today.year - 1, 12, by decide, by decide⟩
  else ⟨today.year, today.month - 1, by have := today.isDay.month_pos; omega,
    by have := today.isDay.month_le; omega⟩

/-- The following month. -/
def next (p : Period) : Period :=
  if h : p.month = 12 then ⟨p.year + 1, 1, by decide, by decide⟩
  else ⟨p.year, p.month + 1, by omega, by have := p.month_le; omega⟩

/-- The first day of the month. -/
def startDate (p : Period) : Date := (Date.ofParts? p.year p.month 1).getD .first

/-- The first day of the following month; where the calendar ends, its last day. -/
def endDate (p : Period) : Date := (Date.ofParts? p.next.year p.next.month 1).getD .last

/-- The day before the end. -/
def lastDay (p : Period) : Date := p.endDate.previousDay

def monthName (p : Period) : String := monthNames.getD (p.month - 1) ""

/-- The vendor's id of the journals of the period. -/
def journalExternalId (p : Period) : String := "AWS-" ++ intText p.year ++ "-" ++ natText p.month

/-- The name of the `n`-th journal of the period. -/
def journalName (p : Period) (n : Nat) : String :=
  "1 " ++ p.monthName ++ " " ++ intText p.year ++ " #" ++ natText n

/-- The year and the month in two digits. -/
def toText (p : Period) : String :=
  intText p.year ++ "-" ++ String.ofList (paddedDigits 2 p.month)

end Period

end CostJournal
