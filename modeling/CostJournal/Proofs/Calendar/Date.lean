import CostJournal.Journal
import CostJournal.Proofs.Text.Blank
import Mathlib.Tactic.SplitIfs

/-!
# Dates and their text

The text of every date is read as that date (`ofText?_toText`), whatever the sign of its year and the
number of its digits.
-/

namespace CostJournal.Date
open Json

variable {width : Nat} {ds rest : List Char}

/-- No digit goes on with this text. -/
def EndsDigits (rest : List Char) : Prop := ∀ c ∈ rest.head?, c.isDigit = false

theorem trimLeft_append (hds : AreDigits ds) (hne : ds ≠ []) (rest : List Char) :
    trimLeft (ds ++ rest) = ds ++ rest := by
  match ds with
  | [] => exact absurd rfl hne
  | d :: ds => exact List.dropWhile_cons_of_neg (by rw [not_isBlank_of_isDigit hds.head]; decide)

theorem foldlM_pushDigit? (hds : AreDigits ds) (n : Nat) : ds.foldlM pushDigit? n = some (digitsValue n ds) := by
  induction ds generalizing n with
  | nil => rfl
  | cons d ds ih =>
    rw [List.foldlM_cons, pushDigit?, digit?_of_isDigit hds.head]
    exact ih hds.tail _

theorem natOfDigits?_of_areDigits (hds : AreDigits ds) (hne : ds ≠ []) : natOfDigits? ds = some (digitsValue 0 ds) := by
  match ds with
  | [] => exact absurd rfl hne
  | d :: ds => exact foldlM_pushDigit? hds 0

/-- Digits are read whole when no more of them are allowed or none follow. -/
theorem readNumber_append (hds : AreDigits ds) (hne : ds ≠ []) (hwidth : ds.length ≤ width)
    (hends : ds.length = width ∨ EndsDigits rest) :
    readNumber width (ds ++ rest) = some (digitsValue 0 ds, rest) := by
  have htaken : ((ds ++ rest).take width).takeWhile Char.isDigit = ds := by
    rw [List.take_append, List.take_of_length_le hwidth, List.takeWhile_append_of_pos hds]
    rcases hends with heq | hends
    · rw [heq, Nat.sub_self, List.take_zero, List.takeWhile_nil, List.append_nil]
    · match rest with
      | [] => rw [List.take_nil, List.takeWhile_nil, List.append_nil]
      | c :: rest =>
        match width - ds.length with
        | 0 => rw [List.take_zero, List.takeWhile_nil, List.append_nil]
        | k + 1 =>
          rw [List.take_succ_cons, List.takeWhile_cons_of_neg (by rw [hends c rfl]; decide), List.append_nil]
  rw [readNumber, trimLeft_append hds hne]
  simp only [isSome_digit?, htaken, natOfDigits?_of_areDigits hds hne, Option.map_some, List.drop_left]

theorem readAfterDash_append (hds : AreDigits ds) (hlength : ds.length = 2) (rest : List Char) :
    readAfterDash ('-' :: (ds ++ rest)) = some (digitsValue 0 ds, rest) := by
  show readNumber 2 (ds ++ rest) = _
  exact readNumber_append hds (List.ne_nil_of_length_eq_add_one hlength) (Nat.le_of_eq hlength) (.inl hlength)

theorem areDigits_digitsFrom (width n : Nat) : AreDigits (digitsFrom width n) :=
  (AreDigits.zeros _).append (areDigits_digits n)

theorem digitsValue_digitsFrom (width n : Nat) : digitsValue 0 (digitsFrom width n) = n := by
  rw [digitsFrom, digitsValue_append, digitsValue_zeros, Nat.zero_mul, digitsValue_digits]

theorem digitsFrom_ne_nil (width n : Nat) : digitsFrom width n ≠ [] := fun h =>
  digits_ne_nil n (List.append_eq_nil_iff.mp h).2

/-- After a sign, all digits are of the year. -/
theorem unlimited_append (hds : AreDigits ds) (hne : ds ≠ []) (hends : EndsDigits rest) :
    readYear.unlimited (ds ++ rest) = some (digitsValue 0 ds, rest) := by
  match ds with
  | [] => exact absurd rfl hne
  | d :: ds =>
    rw [List.cons_append, readYear.unlimited, isSome_digit?, if_pos hds.head, ← List.cons_append,
      readNumber_append hds hne (by simp) (.inr hends)]

/-- Without a sign, the year has four of them. -/
theorem readYear_unsigned (hds : AreDigits ds) (hlength : ds.length = 4) (rest : List Char) :
    readYear (ds ++ rest) = some ((digitsValue 0 ds : Int), rest) := by
  have hne : ds ≠ [] := List.ne_nil_of_length_eq_add_one hlength
  have hread : readNumber 4 (ds ++ rest) = some (digitsValue 0 ds, rest) :=
    readNumber_append hds hne (Nat.le_of_eq hlength) (.inl hlength)
  have hsign : ∀ c, c.isDigit = false → ∀ cs, ds ++ rest ≠ c :: cs := by
    intro c hc cs heq
    match ds with
    | [] => exact hne rfl
    | d :: ds =>
      cases heq
      exact absurd (hds.head.symm.trans hc) (by decide)
  unfold readYear
  rw [trimLeft_append hds hne]
  split
  next heq => exact (hsign '-' rfl _ heq).elim
  next heq => exact (hsign '+' rfl _ heq).elim
  next => rw [hread, Option.map_some]

theorem readYear_append (year : Int) (rest : List Char) (hends : EndsDigits rest) :
    readYear (yearChars year ++ rest) = some (year, rest) := by
  have hdigits := areDigits_digitsFrom 4 year.natAbs
  have hunlimited := unlimited_append hdigits (digitsFrom_ne_nil 4 _) hends
  rw [digitsValue_digitsFrom] at hunlimited
  unfold yearChars
  simp only
  split_ifs with hneg hlarge
  · show (readYear.unlimited (digitsFrom 4 year.natAbs ++ rest)).map _ = _
    rw [hunlimited, Option.map_some]
    congr 2
    omega
  · show (readYear.unlimited (digitsFrom 4 year.natAbs ++ rest)).map _ = _
    rw [hunlimited, Option.map_some]
    congr 2
    omega
  · have hlength : (digitsFrom 4 year.natAbs).length = 4 := by
      have hle : (digits year.natAbs).length ≤ 3 + 1 := length_digits_le (show year.natAbs < 10000 by omega)
      rw [digitsFrom, List.length_append, List.length_replicate]
      omega
    rw [readYear_unsigned hdigits hlength, digitsValue_digitsFrom]
    congr 2
    omega

theorem ofText?_toText (d : Date) : ofText? d.toText = some d := by
  have hmonth : d.month % tenPow 2 = d.month := Nat.mod_eq_of_lt (Nat.lt_of_le_of_lt d.isDay.month_le (by decide))
  have hday : d.day % tenPow 2 = d.day :=
    Nat.mod_eq_of_lt (Nat.lt_of_le_of_lt (Nat.le_trans d.isDay.day_le (Calendar.daysInMonth_le _ _)) (by decide))
  have hreadDay := readAfterDash_append (areDigits_paddedDigits 2 d.day) (length_paddedDigits 2 d.day) []
  have hreadMonth := readAfterDash_append (areDigits_paddedDigits 2 d.month) (length_paddedDigits 2 d.month)
    ('-' :: (paddedDigits 2 d.day ++ []))
  have hreadYear := readYear_append d.year ('-' :: (paddedDigits 2 d.month ++ '-' :: (paddedDigits 2 d.day ++ [])))
    (by rintro _ ⟨⟩; rfl)
  rw [digitsValue_paddedDigits, Nat.zero_mul, Nat.zero_add, hday] at hreadDay
  rw [digitsValue_paddedDigits, Nat.zero_mul, Nat.zero_add, hmonth] at hreadMonth
  have hchars : d.toChars =
      yearChars d.year ++ '-' :: (paddedDigits 2 d.month ++ '-' :: (paddedDigits 2 d.day ++ [])) := by
    simp [toChars]
  rw [ofText?, toText, String.toList_ofList, hchars, hreadYear, Option.bind_eq_bind, Option.bind_some]
  simp only [hreadMonth, hreadDay, Option.bind_some, Option.bind_eq_bind]
  exact (if_pos rfl).trans (dif_pos d.isDay)

end CostJournal.Date
