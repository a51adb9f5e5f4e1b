import CostJournal.Proofs.Text.Digits
import CostJournal.Text.Blank
import Mathlib.Data.List.TakeWhile

/-!
# Blanks around a text

A text that starts and ends without a blank is what is left of it between blanks
(`trimBlanks_between`), and what is left of any text is such a text (`exists_between`).
-/

namespace CostJournal

variable {c : Char} {cs before after : List Char} {f : Char → Char}

theorem not_isBlank_of_isDigit (h : c.isDigit = true) : isBlank c = false := by
  obtain ⟨hzero, hnine⟩ := Bool.and_eq_true_iff.mp h
  have hzero : 48 ≤ c.toNat := UInt32.le_iff_toNat_le.mp (of_decide_eq_true hzero)
  have hnine : c.toNat ≤ 57 := UInt32.le_iff_toNat_le.mp (of_decide_eq_true hnine)
  simp only [isBlank, blankRanges, List.any_cons, List.any_nil, Bool.or_false, Bool.or_eq_false_iff,
    Bool.and_eq_false_iff, decide_eq_false_iff_not]
  omega

def AreBlank (cs : List Char) : Prop := ∀ c ∈ cs, isBlank c = true

instance (cs : List Char) : Decidable (AreBlank cs) := List.decidableBAll _ cs

/-- Neither the first nor the last character is a blank. -/
structure Trimmed (cs : List Char) : Prop where
  head : ∀ c ∈ cs.head?, isBlank c = false
  last : ∀ c ∈ cs.getLast?, isBlank c = false

theorem Trimmed.of_forall (h : ∀ c ∈ cs, isBlank c = false) : Trimmed cs :=
  ⟨fun c hc => h c (List.mem_of_mem_head? hc), fun c hc => h c (List.mem_of_mem_getLast? hc)⟩

theorem trimLeft_eq_self (h : ∀ c ∈ cs.head?, isBlank c = false) : trimLeft cs = cs := by
  match cs with
  | [] => rfl
  | c :: cs => exact List.dropWhile_cons_of_neg (by rw [h c rfl]; decide)

theorem trimLeft_append_left (h : AreBlank before) (cs : List Char) : trimLeft (before ++ cs) = trimLeft cs :=
  List.dropWhile_append_of_pos h

theorem trimBlanks_between (h : Trimmed cs) (hbefore : AreBlank before) (hafter : AreBlank after) :
    trimBlanks (before ++ cs ++ after) = cs := by
  have hreverse : AreBlank after.reverse := fun c hc => hafter c (List.mem_reverse.mp hc)
  match cs with
  | [] =>
    have hall : AreBlank (before ++ [] ++ after) := by
      rw [List.append_nil]
      exact List.forall_mem_append.mpr ⟨hbefore, hafter⟩
    have hleft : trimLeft (before ++ [] ++ after) = [] := List.dropWhile_eq_nil_iff.mpr hall
    rw [trimBlanks, hleft]
    rfl
  | c :: cs =>
    have hleft : trimLeft (before ++ (c :: cs) ++ after) = c :: cs ++ after := by
      rw [List.append_assoc, trimLeft_append_left hbefore]
      exact trimLeft_eq_self h.head
    rw [trimBlanks, hleft, List.reverse_append, trimLeft_append_left hreverse, trimLeft_eq_self, List.reverse_reverse]
    rw [List.head?_reverse]
    exact h.last

theorem head?_trimLeft (cs : List Char) : ∀ c ∈ (trimLeft cs).head?, isBlank c = false := by
  intro c hc
  have hnot := List.head?_dropWhile_not isBlank cs
  rw [trimLeft] at hc
  rwa [hc] at hnot

theorem exists_trimLeft (cs : List Char) : ∃ before, cs = before ++ trimLeft cs ∧ AreBlank before :=
  ⟨cs.takeWhile isBlank, List.takeWhile_append_dropWhile.symm, fun _ hc => List.mem_takeWhile_imp hc⟩

theorem exists_between (cs : List Char) :
    ∃ before after, cs = before ++ trimBlanks cs ++ after ∧ AreBlank before ∧ AreBlank after ∧
      Trimmed (trimBlanks cs) := by
  obtain ⟨before, hcs, hbefore⟩ := exists_trimLeft cs
  obtain ⟨after, hleft, hafter⟩ := exists_trimLeft (trimLeft cs).reverse
  have hleft : trimLeft cs = trimBlanks cs ++ after.reverse := by
    rw [← List.reverse_reverse (trimLeft cs), hleft, List.reverse_append]
    rfl
  refine ⟨before, after.reverse, ?_, hbefore, fun c hc => hafter c (List.mem_reverse.mp hc), ?_, ?_⟩
  · rw [List.append_assoc, ← hleft]
    exact hcs
  · intro c hc
    refine head?_trimLeft cs c ?_
    rw [hleft, List.head?_append, Option.mem_def.mp hc]
    rfl
  · intro c hc
    rw [trimBlanks, List.getLast?_reverse] at hc
    exact head?_trimLeft _ c hc

theorem trimLeft_map (h : ∀ c, isBlank (f c) = isBlank c) (cs : List Char) :
    trimLeft (cs.map f) = (trimLeft cs).map f := by
  have hcomp : isBlank ∘ f = isBlank := funext h
  rw [trimLeft, List.dropWhile_map, hcomp]
  rfl

/-- Characters can be replaced where blanks stay blanks and others others. -/
theorem trimBlanks_map (h : ∀ c, isBlank (f c) = isBlank c) (cs : List Char) :
    trimBlanks (cs.map f) = (trimBlanks cs).map f := by
  rw [trimBlanks, trimLeft_map h, ← List.map_reverse, trimLeft_map h, ← List.map_reverse]
  rfl

end CostJournal
