import CostJournal.Calendar.Date
import Mathlib.Order.Cover

/-!
# The order of dates

Dates are ordered by year, month and day (`le_iff`), which is a linear order. The day before is next to a date in it:
no date is between them (`previousDay_covBy`), over the ends of months and years as well. All the calendar that this
needs is that every month has a first day and that no month has more than 31.
-/

namespace CostJournal

namespace Date
open Calendar
variable {a b d : Date} {year : Int} {month day : Nat}

theorem lt_iff : a < b ↔ a.year < b.year ∨
    a.year = b.year ∧ (a.month < b.month ∨ a.month = b.month ∧ a.day < b.day) := Iff.rfl

theorem le_iff : a ≤ b ↔ a.year < b.year ∨
    a.year = b.year ∧ (a.month < b.month ∨ a.month = b.month ∧ a.day ≤ b.day) := by
  have heq : a = b ↔ a.year = b.year ∧ a.month = b.month ∧ a.day = b.day := Date.ext_iff
  show a < b ∨ a = b ↔ _
  rw [lt_iff, heq]
  omega

instance : LinearOrder Date where
  le_refl a := le_iff.mpr (by omega)
  le_trans a b c hab hbc := by
    rw [le_iff] at hab hbc ⊢
    omega
  le_antisymm a b hab hba := by
    rw [le_iff] at hab hba
    ext <;> omega
  le_total a b := by
    rw [le_iff, le_iff]
    omega
  lt_iff_le_not_ge a b := by
    rw [lt_iff, le_iff, le_iff]
    omega
  toDecidableLE := inferInstance

theorem getD_ofParts? (h : IsDay year month day) (d : Date) :
    (ofParts? year month day).getD d = ⟨year, month, day, h⟩ := by
  rw [ofParts?, dif_pos h, Option.getD_some]

theorem first_le (d : Date) : first ≤ d := by
  obtain ⟨hyear, -, hmonth, -, hday, -⟩ := d.isDay
  have hparts : first.year = minYear ∧ first.month = 1 ∧ first.day = 1 := ⟨rfl, rfl, rfl⟩
  rw [le_iff]
  omega

theorem previousDay_of_day (hday : 1 < d.day) : d.previousDay.year = d.year ∧ d.previousDay.month = d.month ∧
    d.previousDay.day = d.day - 1 := by
  have hparts : IsDay d.year d.month (d.day - 1) :=
    { d.isDay with
      day_pos := Nat.le_sub_one_of_lt hday
      day_le := (Nat.sub_le _ _).trans d.isDay.day_le }
  simp only [previousDay, if_pos hday, getD_ofParts? hparts, and_self]

theorem previousDay_of_month (hday : d.day = 1) (hmonth : 1 < d.month) : d.previousDay.year = d.year ∧
    d.previousDay.month = d.month - 1 ∧ d.previousDay.day = daysInMonth d.year (d.month - 1) := by
  have hparts : IsDay d.year (d.month - 1) (daysInMonth d.year (d.month - 1)) :=
    { d.isDay with
      month_pos := Nat.le_sub_one_of_lt hmonth
      month_le := (Nat.sub_le _ _).trans d.isDay.month_le
      day_pos := daysInMonth_pos _ _
      day_le := le_rfl }
  simp only [previousDay, hday, Nat.lt_irrefl, if_false, if_pos hmonth, getD_ofParts? hparts, and_self]

theorem previousDay_of_newYear (h : first < d) (hday : d.day = 1) (hmonth : d.month = 1) :
    d.previousDay.year = d.year - 1 ∧ d.previousDay.month = 12 ∧ d.previousDay.day = 31 := by
  have hyear : minYear < d.year := by
    have hlt : minYear < d.year ∨ minYear = d.year ∧ (1 < d.month ∨ 1 = d.month ∧ 1 < d.day) := lt_iff.mp h
    omega
  have hmax := d.isDay.le_maxYear
  have hparts : IsDay (d.year - 1) 12 31 := ⟨by omega, by omega, by decide, by decide, by decide, le_rfl⟩
  simp only [previousDay, hday, hmonth, Nat.lt_irrefl, if_false, getD_ofParts? hparts, and_self]

/-- The day before is in the same month, or ends the month before, or ends the year before. -/
theorem previousDay_cases (h : first < d) :
    1 < d.day ∧ d.previousDay.year = d.year ∧ d.previousDay.month = d.month ∧ d.previousDay.day = d.day - 1 ∨
    d.day = 1 ∧ 1 < d.month ∧ d.previousDay.year = d.year ∧ d.previousDay.month = d.month - 1 ∧
      d.previousDay.day = daysInMonth d.year (d.month - 1) ∨
    d.day = 1 ∧ d.month = 1 ∧ d.previousDay.year = d.year - 1 ∧ d.previousDay.month = 12 ∧
      d.previousDay.day = 31 := by
  rcases d.isDay.day_pos.lt_or_eq with hday | hday
  · exact .inl ⟨hday, previousDay_of_day hday⟩
  · rcases d.isDay.month_pos.lt_or_eq with hmonth | hmonth
    · exact .inr (.inl ⟨hday.symm, hmonth, previousDay_of_month hday.symm hmonth⟩)
    · exact .inr (.inr ⟨hday.symm, hmonth.symm, previousDay_of_newYear h hday.symm hmonth.symm⟩)

/-- No date is between the day before and the date. -/
theorem previousDay_covBy (h : first < d) : d.previousDay ⋖ d := by
  have hcases := previousDay_cases h
  constructor
  · rw [lt_iff]
    omega
  · intro e hlow hhigh
    rw [lt_iff] at hlow hhigh
    obtain ⟨-, -, hmonth, hmonth', hday, hday'⟩ := e.isDay
    have hle := daysInMonth_le e.year e.month
    rcases hcases with ⟨-, hparts⟩ | ⟨hfirst, -, hyear, hbefore, hlast⟩ | ⟨hfirst, hjanuary, hparts⟩
    · omega
    · -- the date would be in the month before, behind its last day
      have heq : e.year = d.year ∧ e.month = d.month - 1 := by omega
      rw [heq.1, heq.2] at hday'
      omega
    · omega

end Date

end CostJournal
