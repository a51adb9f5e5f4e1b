import CostJournal.Period
import CostJournal.Proofs.Calendar.Order
import CostJournal.Proofs.Returns

/-!
# Periods tile the calendar

A period has the dates from its start up to, and without, its end, which is the start of the following period
(`isIn_iff_lt_endDate`). So its last day is next to its end, the dates up to it are the dates of the month, and the
period is what a date of the following month comes to (`tiles_of_ofMonth`). Only the last month of the calendar is
left out: there is no following day that its end could be.
-/

namespace CostJournal
open Calendar

/-- The date is one of the period's month. -/
def Date.IsIn (d : Date) (p : Period) : Prop := d.year = p.year ∧ d.month = p.month

namespace Period
variable {p : Period} {d : Date} {year : Int} {month : Nat}

theorem ofMonth_eq_ok : ofMonth year month = .ok p ↔ (p.year = year ∧ p.month = month) ∧ IsDay year month 1 := by
  unfold ofMonth
  split
  next hmonth =>
    split
    next hday => simp [Period.ext_iff, hday, eq_comm]
    next hday => simp [hday]
  next hmonth => exact iff_of_false (by rintro ⟨⟩) fun h => hmonth ⟨h.2.month_pos, h.2.month_le⟩

theorem startDate_eq (h : IsDay p.year p.month 1) : p.startDate = ⟨p.year, p.month, 1, h⟩ := Date.getD_ofParts? h _

theorem endDate_eq (h : IsDay p.next.year p.next.month 1) : p.endDate = ⟨p.next.year, p.next.month, 1, h⟩ :=
  Date.getD_ofParts? h _

theorem next_cases (p : Period) : p.month < 12 ∧ p.next.year = p.year ∧ p.next.month = p.month + 1 ∨
    p.month = 12 ∧ p.next.year = p.year + 1 ∧ p.next.month = 1 := by
  by_cases h : p.month = 12
  · have heq : p.next = ⟨p.year + 1, 1, by decide, by decide⟩ := by rw [next, dif_pos h]
    rw [heq]
    exact .inr ⟨h, rfl, rfl⟩
  · have hlt := Nat.lt_of_le_of_ne p.month_le h
    have heq : p.next = ⟨p.year, p.month + 1, by omega, hlt⟩ := by rw [next, dif_neg h]
    rw [heq]
    exact .inl ⟨hlt, rfl, rfl⟩

theorem previous_cases (d : Date) :
    1 < d.month ∧ (previous d).year = d.year ∧ (previous d).month = d.month - 1 ∨
    d.month = 1 ∧ (previous d).year = d.year - 1 ∧ (previous d).month = 12 := by
  by_cases h : d.month = 1
  · have heq : previous d = ⟨d.year - 1, 12, by decide, by decide⟩ := by rw [previous, dif_pos h]
    rw [heq]
    exact .inr ⟨h, rfl, rfl⟩
  · have hlt := Nat.lt_of_le_of_ne d.isDay.month_pos (Ne.symm h)
    have heq : previous d = ⟨d.year, d.month - 1, by omega, by have := d.isDay.month_le; omega⟩ := by
      rw [previous, dif_neg h]
    rw [heq]
    exact .inl ⟨hlt, rfl, rfl⟩

/-- The period before a date is followed by the month of the date. -/
theorem previous_eq_iff : previous d = p ↔ d.IsIn p.next := by
  have hprevious := previous_cases d
  have hnext := p.next_cases
  have hpos := p.month_pos
  have hmonth := d.isDay.month_le
  rw [Period.ext_iff, Date.IsIn]
  omega

/-- The dates of a month are those from its first day on that are before the first day of the following month. -/
theorem isIn_iff_lt_endDate (hstart : IsDay p.year p.month 1) (hnext : IsDay p.next.year p.next.month 1) :
    d.IsIn p ↔ p.startDate ≤ d ∧ d < p.endDate := by
  have hcases := p.next_cases
  obtain ⟨-, -, hmonth, hmonth', hday, -⟩ := d.isDay
  rw [startDate_eq hstart, endDate_eq hnext, Date.le_iff, Date.lt_iff, Date.IsIn]
  simp only
  omega

theorem startDate_lt_endDate (hstart : IsDay p.year p.month 1) (hnext : IsDay p.next.year p.next.month 1) :
    p.startDate < p.endDate := by
  refine ((isIn_iff_lt_endDate hstart hnext).mp ?_).2
  rw [startDate_eq hstart]
  exact ⟨rfl, rfl⟩

theorem lastDay_covBy_endDate (hstart : IsDay p.year p.month 1) (hnext : IsDay p.next.year p.next.month 1) :
    p.lastDay ⋖ p.endDate :=
  Date.previousDay_covBy ((Date.first_le _).trans_lt (startDate_lt_endDate hstart hnext))

/-- The period is one piece of the calendar: it has the dates of its month, the following period is next to it, and the
dates of that one come to it as the month before. -/
structure Tiles (p : Period) : Prop where
  dates : ∀ d : Date, p.startDate ≤ d ∧ d ≤ p.lastDay ↔ d.IsIn p
  lastDay_covBy : p.lastDay ⋖ p.endDate
  endDate_eq : p.endDate = p.next.startDate
  previous_iff : ∀ d : Date, previous d = p ↔ d.IsIn p.next

theorem tiles_of_ofMonth (hp : ofMonth year month = .ok p) (hnext : IsDay p.next.year p.next.month 1) : p.Tiles := by
  obtain ⟨⟨rfl, rfl⟩, hstart⟩ := ofMonth_eq_ok.mp hp
  have hlast := lastDay_covBy_endDate hstart hnext
  refine ⟨fun d => ?_, hlast, ?_, fun d => previous_eq_iff⟩
  · rw [isIn_iff_lt_endDate hstart hnext, hlast.lt_iff_le_left]
  · rw [endDate_eq hnext, startDate_eq hnext]

/-- February of the year -4, which is a leap year. -/
theorem tiles_of_ofMonth_leapYear :
    ∃ p, ofMonth (-4) 2 = .ok p ∧ IsDay p.next.year p.next.month 1 ∧ p.Tiles ∧
      Date.ofParts? (-4) 2 29 = some p.lastDay := by
  have hp : ofMonth (-4) 2 = .ok ⟨-4, 2, by decide, by decide⟩ := by decide
  have hnext : IsDay (-4) 3 1 := by decide
  exact ⟨_, hp, hnext, tiles_of_ofMonth hp hnext, by decide⟩

-- where the calendar ends, its last day takes the place of the first one after it
example : (⟨maxYear, 12, by decide, by decide⟩ : Period).lastDay.day = 30 := by decide

end Period

end CostJournal
