import CostJournal.Period
import Mathlib.Data.List.Basic

/-!
# Names that tell periods apart

A period is read off the vendor's id of its journals (`journalExternalId_inj`): month and year are
parted by the last dash, also where the year has a sign of its own. The number of a journal is read off
its name (`journalName_inj`).
-/

namespace CostJournal

/-- Lists that are cut at the last place where they have an element are cut at the same place. -/
theorem eq_of_last_eq {α : Type} {a : α} {xs xs' ys ys' : List α} (h : xs ++ a :: ys = xs' ++ a :: ys')
    (hys : a ∉ ys) (hys' : a ∉ ys') : xs = xs' ∧ ys = ys' := by
  rcases List.append_eq_append_iff.mp h with ⟨zs, rfl, hzs⟩ | ⟨zs, rfl, hzs⟩
  · cases zs with
    | nil => simpa using hzs
    | cons z zs => exact absurd (by simp [(List.cons.inj hzs).2]) hys
  · cases zs with
    | nil => simpa using hzs.symm
    | cons z zs => exact absurd (by simp [(List.cons.inj hzs).2]) hys'

theorem exists_digit_of_mem_digits {n : Nat} {c : Char} (h : c ∈ digits n) : ∃ k < 10, c = digitChar k := by
  induction n using Nat.strongRecOn with
  | _ n ih =>
    rw [digits] at h
    split at h
    next hlt => exact ⟨n, hlt, List.mem_singleton.mp h⟩
    next hge =>
      rcases List.mem_append.mp h with h | h
      · exact ih (n / 10) (by omega) h
      · exact ⟨n % 10, Nat.mod_lt n (by decide), List.mem_singleton.mp h⟩

theorem notMem_digits {c : Char} (hc : ∀ k < 10, c ≠ digitChar k) (n : Nat) : c ∉ digits n := by
  intro h
  obtain ⟨k, hk, heq⟩ := exists_digit_of_mem_digits h
  exact hc k hk heq

theorem dash_notMem_digits (n : Nat) : '-' ∉ digits n := notMem_digits (by decide) n

theorem digits_inj {m n : Nat} : digits m = digits n ↔ m = n := by
  refine ⟨fun h => ?_, fun h => h ▸ rfl⟩
  have hread : natOfDigits? (digits m) = natOfDigits? (digits n) := by rw [h]
  rw [natOfDigits?_digits, natOfDigits?_digits] at hread
  exact Option.some.inj hread

/-- A dash at the front is the sign, as no digit is a dash. -/
theorem intText_inj {m n : Int} : intText m = intText n ↔ m = n := by
  refine ⟨fun h => ?_, fun h => h ▸ rfl⟩
  rw [intText, intText, String.ofList_inj, intChars, intChars] at h
  have hsign : ∀ a b : Nat, '-' :: digits a ≠ digits b := fun a b heq =>
    dash_notMem_digits b (heq ▸ List.mem_cons_self)
  split at h
  next hm =>
    split at h
    next hn =>
      have := digits_inj.mp (List.cons.inj h).2
      omega
    next hn => exact absurd h (hsign _ _)
  next hm =>
    split at h
    next hn => exact absurd h.symm (hsign _ _)
    next hn =>
      have := digits_inj.mp h
      omega

namespace Period
variable {p p' : Period} {n n' : Nat}

theorem journalExternalId_inj : p.journalExternalId = p'.journalExternalId ↔ p = p' := by
  refine ⟨fun h => ?_, fun h => h ▸ rfl⟩
  have htail : (intText p.year).toList ++ '-' :: digits p.month =
      (intText p'.year).toList ++ '-' :: digits p'.month := by
    simpa [journalExternalId, natText, String.append_assoc, ← String.toList_inj] using h
  obtain ⟨hyear, hmonth⟩ := eq_of_last_eq htail (dash_notMem_digits _) (dash_notMem_digits _)
  ext
  · exact intText_inj.mp (String.toList_inj.mp hyear)
  · exact digits_inj.mp hmonth

end Period

end CostJournal
