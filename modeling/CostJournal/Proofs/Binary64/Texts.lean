import CostJournal.Proofs.Json.Printing
import Mathlib.Tactic.SplitIfs

/-!
# Doubles and their text

The shortest digits of a double do not start with a zero, so both notations are well-formed: positional
notation has digits around at most one point, and the text of a float is a number (`isWritten_floatNumeral`).
-/

namespace CostJournal.Binary64
open Json Numeral

theorem value_strip {d : Digits} (h : d.value ≠ 0) (fuel : Nat) : (d.strip fuel).value ≠ 0 := by
  induction fuel generalizing d with
  | zero => exact h
  | succ fuel ih =>
    unfold Digits.strip
    split
    next hmod =>
      refine ih (show d.value / 10 ≠ 0 from ?_)
      omega
    next => exact h

/-- A step of the grid, and a quarter of a last bit, in one unit. -/
def gridStep (x : Binary64) (grid : Int) : Nat := tenPow grid.toNat * twoTo (-(x.exponent - 2))

def quarter (x : Binary64) (grid : Int) : Nat := tenPow (-grid).toNat * twoTo (x.exponent - 2)

/-- Digits that round to a double are at most half of a last bit away from it. -/
theorem digitsOf?_near {halfway : Halfway} {x : Binary64} {place : Int} {count : Nat} {d : Digits}
    (h : digitsOf? halfway x place count = some d) :
    4 * x.significand * x.quarter d.exponent ≤ d.value * x.gridStep d.exponent + 2 * x.quarter d.exponent ∧
      d.value * x.gridStep d.exponent ≤ 4 * x.significand * x.quarter d.exponent + 2 * x.quarter d.exponent := by
  unfold digitsOf? at h
  extract_lets e grid step scale value below low high inside q r down up preferDown at h
  have hbelow : below * scale ≤ 2 * scale := by
    refine Nat.mul_le_mul_right scale ?_
    unfold below
    split <;> decide
  have hinside : ∀ n, inside n = true → value ≤ n * step + 2 * scale ∧ n * step ≤ value + 2 * scale := by
    intro n hn
    unfold inside low high at hn
    split at hn
    · simp only [Bool.and_eq_true, decide_eq_true_eq] at hn
      omega
    · simp only [Bool.and_eq_true, decide_eq_true_eq] at hn
      omega
  split at h
  next hdown =>
    cases h
    exact hinside q (Bool.and_eq_true_iff.mp hdown).1
  next =>
    split at h
    next hup =>
      cases h
      exact hinside (q + 1) hup
    next => exact nomatch h

theorem quarter_pos (x : Binary64) (grid : Int) : 0 < x.quarter grid :=
  Nat.mul_pos (tenPow_pos _) (twoPow_pos _)

theorem value_digitsOf? {halfway : Halfway} {x : Binary64} {place : Int} {count : Nat} {d : Digits}
    (hx : x.significand ≠ 0) (h : digitsOf? halfway x place count = some d) : d.value ≠ 0 := by
  intro hzero
  have hnear := (digitsOf?_near h).1
  have hquarter := x.quarter_pos d.exponent
  have hle := Nat.mul_le_mul_right (x.quarter d.exponent) (show 4 ≤ 4 * x.significand by omega)
  rw [hzero, Nat.zero_mul] at hnear
  omega

/-- The shortest digits are those of some grid without zeros at their end; without any, all digits are taken. -/
theorem shortest_cases (halfway : Halfway) (x : Binary64) :
    x.shortest halfway = ⟨0, 0⟩ ∨ x.significand ≠ 0 ∧ (x.shortest halfway = ⟨x.numerator, 0⟩ ∨
      ∃ place count d, digitsOf? halfway x place count = some d ∧ x.shortest halfway = d.strip 18) := by
  unfold shortest
  split
  next => exact .inl rfl
  next hzero =>
    refine .inr ⟨fun h => hzero (beq_iff_eq.mpr h), ?_⟩
    simp only
    split
    next d hd =>
      obtain ⟨count, -, hd⟩ := List.exists_of_findSome?_eq_some hd
      exact .inr ⟨_, _, d, hd, rfl⟩
    next => exact .inl rfl

/-- Only a zero has digits that are zero, and those have no exponent. -/
theorem value_shortest (halfway : Halfway) (x : Binary64) :
    (x.shortest halfway).value ≠ 0 ∨ (x.shortest halfway).exponent = 0 := by
  rcases x.shortest_cases halfway with h | ⟨hx, h | ⟨_, _, d, hd, h⟩⟩
  · exact .inr (by rw [h])
  · exact .inr (by rw [h])
  · exact .inl (by rw [h]; exact value_strip (value_digitsOf? hx hd) 18)

/-- The digits before and after the point of `pointed`. -/
def wholePart (cs : List Char) (places : Nat) : List Char :=
  let padded := List.replicate (places + 1 - cs.length) '0' ++ cs
  padded.take (padded.length - places)

def fractionPart (cs : List Char) (places : Nat) : List Char :=
  let padded := List.replicate (places + 1 - cs.length) '0' ++ cs
  padded.drop (padded.length - places)

theorem pointed_eq (cs : List Char) (places : Nat) :
    pointed cs places = wholePart cs places ++ '.' :: fractionPart cs places := rfl

theorem wholePart_append_fractionPart (cs : List Char) (places : Nat) :
    wholePart cs places ++ fractionPart cs places = List.replicate (places + 1 - cs.length) '0' ++ cs :=
  List.take_append_drop _ _

theorem length_fractionPart (cs : List Char) (places : Nat) : (fractionPart cs places).length = places := by
  simp only [fractionPart, List.length_drop, List.length_append, List.length_replicate]
  omega

theorem areDigits_parts {cs : List Char} (h : AreDigits cs) (places : Nat) :
    AreDigits (wholePart cs places) ∧ AreDigits (fractionPart cs places) := by
  have hpadded := (AreDigits.zeros (places + 1 - cs.length)).append h
  exact ⟨hpadded.take _, hpadded.drop _⟩

theorem isWhole_take {k : Nat} (hk : k ≠ 0) (n : Nat) : IsWhole ((digits n).take k) := by
  by_cases hn : n = 0
  · obtain ⟨k, rfl⟩ := Nat.exists_eq_succ_of_ne_zero hk
    subst hn
    exact .inl (by rw [digits_zero, List.take_succ_cons, List.take_nil])
  · have hhead : ((digits n).take k).head? = (digits n).head? := List.head?_take.trans (if_neg hk)
    refine .inr ⟨(areDigits_digits n).take k, fun hnil => ?_, by rw [hhead]; exact head_digits_ne_zero hn⟩
    rw [hnil] at hhead
    exact digits_ne_nil n (List.head?_eq_none_iff.mp hhead.symm)

theorem isWhole_wholePart (n places : Nat) : IsWhole (wholePart (digits n) places) := by
  unfold wholePart
  by_cases hlength : (digits n).length ≤ places
  · obtain ⟨zeros, hzeros⟩ := Nat.exists_eq_add_of_le hlength
    have hpadded : places + 1 - (digits n).length = zeros + 1 := by omega
    have hpoint : (List.replicate (zeros + 1) '0' ++ digits n).length - places = 1 := by
      rw [List.length_append, List.length_replicate]
      omega
    rw [hpadded]
    simp only [hpoint]
    exact .inl rfl
  · have hpadded : places + 1 - (digits n).length = 0 := by omega
    rw [hpadded]
    exact isWhole_take (show (digits n).length - places ≠ 0 by omega) n

/-- Digits with zeros after them, if they are not those of a zero. -/
theorem isWhole_append_zeros {n k : Nat} (h : n ≠ 0 ∨ k = 0) : IsWhole (digits n ++ List.replicate k '0') := by
  rcases h with h | rfl
  · refine .inr ⟨(areDigits_digits n).append (.zeros k), ?_, ?_⟩
    · exact List.append_ne_nil_of_left_ne_nil (digits_ne_nil n) _
    · rw [List.head?_append, Option.or_of_isSome (List.isSome_head?.mpr (digits_ne_nil n))]
      exact head_digits_ne_zero h
  · rw [List.replicate_zero, List.append_nil]
    exact isWhole_digits n

/-- The place of the point after the first of the digits. -/
def Digits.point (d : Digits) : Int := (digits d.value).length + d.exponent

/-- The parts of the text of a float with these shortest digits. -/
def Digits.numeral (negative : Bool) (d : Digits) : Numeral :=
  if -5 < d.point && d.point ≤ 16 then
    if 0 ≤ d.exponent then ⟨negative, digits d.value ++ List.replicate d.exponent.toNat '0', ['0'], none⟩
    else ⟨negative, wholePart (digits d.value) (-d.exponent).toNat,
      fractionPart (digits d.value) (-d.exponent).toNat, none⟩
  else ⟨negative, (digits d.value).take 1, (digits d.value).drop 1,
    some (decide (d.point - 1 < 0), digits (d.point - 1).natAbs)⟩

theorem fractionChars_of_length {ds : List Char} (h : ds.length ≠ 0) : fractionChars ds = '.' :: ds :=
  match ds with
  | [] => absurd rfl h
  | _ :: _ => rfl

theorem toChars_numeral (negative : Bool) (x : Binary64) :
    ((x.shortest .even).numeral negative).toChars = signChars negative ++ x.toFloatText := by
  unfold toFloatText
  generalize x.shortest .even = d
  unfold Digits.numeral
  by_cases hplain : (decide (-5 < d.point) && decide (d.point ≤ 16)) = true
  · rw [if_pos hplain]
    refine Eq.trans ?_ (congrArg (signChars negative ++ ·) (if_pos hplain).symm)
    by_cases hexponent : 0 ≤ d.exponent
    · rw [if_pos hexponent, if_pos hexponent]
      simp [toChars, fractionChars, exponentChars]
    · rw [if_neg hexponent, if_neg hexponent, pointed_eq]
      have hlength := length_fractionPart (digits d.value) (-d.exponent).toNat
      rw [toChars, fractionChars_of_length (by rw [hlength]; omega), exponentChars, List.append_nil]
  · rw [if_neg hplain]
    refine Eq.trans ?_ (congrArg (signChars negative ++ ·) (if_neg hplain).symm)
    have hmantissa : (digits d.value).take 1 ++ fractionChars ((digits d.value).drop 1) =
        if (digits d.value).length = 1 then digits d.value
        else (digits d.value).take 1 ++ '.' :: (digits d.value).drop 1 := by
      split
      next hsingle =>
        rw [List.drop_of_length_le (Nat.le_of_eq hsingle), List.take_of_length_le (Nat.le_of_eq hsingle)]
        exact List.append_nil _
      next hsingle =>
        have hlength := List.length_pos_of_ne_nil (digits_ne_nil d.value)
        rw [fractionChars_of_length (by rw [List.length_drop]; omega)]
    simp only [toChars, exponentChars, ← List.append_assoc, hmantissa, decide_eq_true_eq]
    rfl

theorem isWritten_numeral (negative : Bool) (x : Binary64) : ((x.shortest .even).numeral negative).IsWritten := by
  have hvalue := x.value_shortest .even
  unfold Digits.numeral
  split_ifs with hplain hexponent
  · exact ⟨isWhole_append_zeros (hvalue.imp id fun h => by rw [h]; rfl), .cons rfl .nil, fun _ h => nomatch h⟩
  · exact ⟨isWhole_wholePart _ _, (areDigits_parts (areDigits_digits _) _).2, fun _ h => nomatch h⟩
  · refine ⟨isWhole_take Nat.one_ne_zero _, (areDigits_digits _).drop 1, ?_⟩
    rintro _ ⟨⟩
    exact ⟨areDigits_digits _, digits_ne_nil _⟩

end CostJournal.Binary64
