import CostJournal.Text.Blank
import CostJournal.Text.Digits

/-!
# Dates

Days of the proleptic Gregorian calendar, from the first day of the year -262143 to the last of
262142, with their order, their text and the day before.
-/

namespace CostJournal

namespace Calendar

def minYear : Int := -262143

def maxYear : Int := 262142

def isLeap (year : Int) : Bool := year % 4 == 0 && (year % 100 != 0 || year % 400 == 0)

def daysInMonth (year : Int) (month : Nat) : Nat :=
  if month = 2 then if isLeap year then 29 else 28
  else if month = 4 ∨ month = 6 ∨ month = 9 ∨ month = 11 then 30
  else 31

theorem daysInMonth_pos (year : Int) (month : Nat) : 1 ≤ daysInMonth year month := by
  unfold daysInMonth
  repeat' split
  all_goals decide

theorem daysInMonth_le (year : Int) (month : Nat) : daysInMonth year month ≤ 31 := by
  unfold daysInMonth
  repeat' split
  all_goals decide

/-- The three numbers name a day in range. -/
structure IsDay (year : Int) (month day : Nat) : Prop where
  minYear_le : minYear ≤ year
  le_maxYear : year ≤ maxYear
  month_pos : 1 ≤ month
  month_le : month ≤ 12
  day_pos : 1 ≤ day
  day_le : day ≤ daysInMonth year month

instance (year : Int) (month day : Nat) : Decidable (IsDay year month day) :=
  decidable_of_iff
    (minYear ≤ year ∧ year ≤ maxYear ∧ 1 ≤ month ∧ month ≤ 12 ∧ 1 ≤ day ∧ day ≤ daysInMonth year month)
    ⟨fun ⟨a, b, c, d, e, f⟩ => ⟨a, b, c, d, e, f⟩, fun ⟨a, b, c, d, e, f⟩ => ⟨a, b, c, d, e, f⟩⟩

end Calendar

open Calendar

@[ext]
structure Date where
  year : Int
  month : Nat
  day : Nat
  isDay : IsDay year month day
deriving DecidableEq

namespace Date

def ofParts? (year : Int) (month day : Nat) : Option Date :=
  if h : IsDay year month day then some ⟨year, month, day, h⟩ else none

def first : Date := ⟨minYear, 1, 1, by decide⟩

def last : Date := ⟨maxYear, 12, 31, by decide⟩

instance : Inhabited Date := ⟨first⟩

/-- Earlier in the calendar. -/
def lt (a b : Date) : Prop :=
  a.year < b.year ∨ a.year = b.year ∧ (a.month < b.month ∨ a.month = b.month ∧ a.day < b.day)

instance : LT Date := ⟨lt⟩

instance : LE Date := ⟨fun a b => a < b ∨ a = b⟩

instance (a b : Date) : Decidable (a < b) :=
  inferInstanceAs (Decidable (a.year < b.year ∨
    a.year = b.year ∧ (a.month < b.month ∨ a.month = b.month ∧ a.day < b.day)))

instance (a b : Date) : Decidable (a ≤ b) := inferInstanceAs (Decidable (a < b ∨ a = b))

/-- The day before; the first date has none and stays. -/
def previousDay (d : Date) : Date :=
  let (year, month, day) :=
    if 1 < d.day then (d.year, d.month, d.day - 1)
    else if 1 < d.month then (d.year, d.month - 1, daysInMonth d.year (d.month - 1))
    else (d.year - 1, 12, 31)
  (ofParts? year month day).getD first

/-- The date that many days after the first of January 1970. Years are counted from March, so that
the leap day ends them, and in eras of 400 years. -/
def ofDayNumber (n : Nat) : Date :=
  let day := n + 719468
  let era := day / 146097
  let ofEra := day % 146097
  let year := (ofEra - ofEra / 1460 + ofEra / 36524 - ofEra / 146096) / 365
  let ofYear := ofEra - (365 * year + year / 4 - year / 100)
  let month := (5 * ofYear + 2) / 153
  let newYear := if month < 10 then 0 else 1
  (ofParts? (era * 400 + year + newYear : Nat) (if month < 10 then month + 3 else month - 9)
    (ofYear - (153 * month + 2) / 5 + 1)).getD last

/-- Four digits for the years 0 to 9999; the others have a sign and at least four. -/
def yearChars (year : Int) : List Char :=
  let cs := digitsFrom 4 year.natAbs
  if year < 0 then '-' :: cs else if 9999 < year then '+' :: cs else cs

def toChars (d : Date) : List Char :=
  yearChars d.year ++ '-' :: paddedDigits 2 d.month ++ '-' :: paddedDigits 2 d.day

def toText (d : Date) : String := String.ofList d.toChars

/-- The number at the start of a text, of at most `width` digits, after blanks. -/
def readNumber (width : Nat) (cs : List Char) : Option (Nat × List Char) :=
  let cs := trimLeft cs
  let ds := (cs.take width).takeWhile fun c => (digit? c).isSome
  (natOfDigits? ds).map fun n => (n, cs.drop ds.length)

/-- The number after blanks and a dash. -/
def readAfterDash (cs : List Char) : Option (Nat × List Char) :=
  match trimLeft cs with
  | '-' :: rest => readNumber 2 rest
  | _ => none

/-- A year of at most four digits, or of any number after a sign. -/
def readYear (cs : List Char) : Option (Int × List Char) :=
  match trimLeft cs with
  | '-' :: rest => (unlimited rest).map fun p => (-(p.1 : Int), p.2)
  | '+' :: rest => (unlimited rest).map fun p => ((p.1 : Int), p.2)
  | cs => (readNumber 4 cs).map fun p => ((p.1 : Int), p.2)
where
  unlimited (cs : List Char) : Option (Nat × List Char) :=
    match cs with
    | c :: _ => if (digit? c).isSome then readNumber cs.length cs else none
    | [] => none

/-- Reads year, month and day with dashes between them; blanks around the numbers do not count. -/
def ofText? (s : String) : Option Date := do
  let (year, cs) ← readYear s.toList
  let (month, cs) ← readAfterDash cs
  let (day, cs) ← readAfterDash cs
  if (trimLeft cs).isEmpty then ofParts? year month day else none

end Date

end CostJournal
