import CostJournal.Proofs.Binary64.Rounding
import CostJournal.Proofs.Binary64.Texts

/-!
# What the digits of a double are worth

The shortest digits of a double are at most half of a last bit beyond it (`worth_shortest_le`), and both
notations write them out: their text is worth what they are.
-/

namespace CostJournal

theorem tenPow_eq (n : Nat) : tenPow n = 10 ^ n := by
  induction n with
  | zero => rfl
  | succ n ih => rw [tenPow_succ, ih, Nat.pow_succ]

namespace Binary64
open Json

theorem tenPow_div_tenPow_neg (e : Int) : (tenPow e.toNat : ℚ) / tenPow (-e).toNat = 10 ^ e := by
  rw [tenPow_eq, tenPow_eq]
  push_cast
  rcases Int.le_total 0 e with he | he
  · obtain ⟨n, rfl⟩ := Int.eq_ofNat_of_zero_le he
    simp
  · obtain ⟨n, hn⟩ := Int.eq_ofNat_of_zero_le (Int.neg_nonneg.mpr he)
    obtain rfl : e = -(n : Int) := by omega
    simp

/-- The rational that the digits stand for. -/
def Digits.worth (d : Digits) : ℚ := d.value * 10 ^ d.exponent

theorem worth_strip (d : Digits) (fuel : Nat) : (d.strip fuel).worth = d.worth := by
  induction fuel generalizing d with
  | zero => rfl
  | succ fuel ih =>
    unfold Digits.strip
    split
    next hmod =>
      rw [ih]
      have hvalue : (d.value : ℚ) = (d.value / 10 : ℕ) * 10 := by
        exact_mod_cast (Nat.div_mul_cancel (Nat.dvd_of_mod_eq_zero hmod)).symm
      unfold Digits.worth
      rw [hvalue, zpow_add_one₀ (by norm_num)]
      ring
    next => rfl

variable {halfway : Halfway} {x : Binary64}

theorem worth_digitsOf?_le {place : Int} {count : Nat} {d : Digits}
    (h : digitsOf? halfway x place count = some d) :
    d.worth ≤ (x.significand + 1 / 2) * 2 ^ x.exponent := by
  have hnear : (d.value * x.gridStep d.exponent : ℚ) ≤ (4 * x.significand + 2) * x.quarter d.exponent := by
    have := (digitsOf?_near h).2
    rw [← Nat.add_mul] at this
    exact_mod_cast this
  have hgrid : (0 : ℚ) < tenPow (-d.exponent).toNat := Nat.cast_pos.mpr (tenPow_pos _)
  have hbits := twoTo_pos (-(x.exponent - 2))
  have hquarter : (2 ^ x.exponent : ℚ) = 2 ^ (x.exponent - 2) * 4 := by
    rw [zpow_sub₀ two_ne_zero]
    norm_num
  unfold Digits.worth
  rw [← tenPow_div_tenPow_neg, hquarter, ← twoTo_div_twoTo_neg]
  unfold gridStep quarter at hnear
  push_cast at hnear
  rw [mul_div_assoc', div_mul_eq_mul_div, mul_div_assoc', div_le_div_iff₀ hgrid hbits]
  linarith

/-- Digits of a double are worth at most half of its last bit more, if not less than `2 ^ 53`. -/
theorem worth_shortest_le {bound : ℚ} (hx : x.significand < 2 ^ 53)
    (hbound : (x.significand + 1 / 2) * 2 ^ x.exponent ≤ bound) (hlarge : 2 ^ 53 ≤ bound) :
    (x.shortest halfway).worth ≤ bound := by
  rcases x.shortest_cases halfway with h | ⟨-, h | ⟨_, _, d, hd, h⟩⟩
  · rw [h]
    exact le_trans (by norm_num [Digits.worth]) hlarge
  · have hworth : (x.shortest halfway).worth = x.significand * twoTo x.exponent := by
      rw [h]
      simp [Digits.worth, numerator]
    rw [hworth]
    rcases Int.le_total 0 x.exponent with he | he
    · have hbits : (twoTo x.exponent : ℚ) = 2 ^ x.exponent := by
        rw [← twoTo_div_twoTo_neg, twoTo, twoTo, Int.toNat_of_nonpos (Int.neg_nonpos_of_nonneg he), twoPow_eq 0]
        norm_num
      rw [hbits]
      exact le_trans (by gcongr; norm_num) hbound
    · rw [twoTo, Int.toNat_of_nonpos he, twoPow_eq 0, pow_zero, Nat.cast_one, mul_one]
      exact le_trans (by exact_mod_cast hx.le) hlarge
  · rw [h, worth_strip]
    exact (worth_digitsOf?_le hd).trans hbound

end Binary64

namespace Json.Numeral

/-- The power of ten of the last digit. -/
def scale (n : Numeral) : Int :=
  (match n.exponent with
    | none => 0
    | some (down, ds) => if down then -(digitsValue 0 ds : Int) else digitsValue 0 ds) - n.fraction.length

/-- The rational that the numeral stands for, without its sign. -/
def worth (n : Numeral) : ℚ := digitsValue 0 (n.whole ++ n.fraction) * 10 ^ n.scale

end Json.Numeral

namespace Binary64
open Json

theorem digitsValue_parts (n places : Nat) :
    digitsValue 0 (wholePart (digits n) places ++ fractionPart (digits n) places) = n := by
  rw [wholePart_append_fractionPart, digitsValue_append, digitsValue_zeros, Nat.zero_mul, digitsValue_digits]

/-- The text of a float is worth what the shortest digits are. -/
theorem worth_numeral (negative : Bool) (d : Digits) : (d.numeral negative).worth = d.worth := by
  unfold Digits.numeral Numeral.worth Numeral.scale Digits.worth
  split_ifs with hplain hexponent
  · obtain ⟨n, hn⟩ := Int.eq_ofNat_of_zero_le hexponent
    have hzero : ∀ m, digitsValue m ['0'] = m * tenPow 1 := fun m => digitsValue_zeros m 1
    simp only
    rw [List.append_assoc, digitsValue_append, digitsValue_digits, digitsValue_append, digitsValue_zeros, hzero, hn,
      Int.toNat_natCast, tenPow_eq, tenPow_eq]
    push_cast
    norm_num
    ring
  · simp only
    rw [digitsValue_parts, length_fractionPart]
    congr 2
    omega
  · have hlength := List.length_pos_of_ne_nil (digits_ne_nil d.value)
    have hexponent : (if d.point - 1 < 0 then -((d.point - 1).natAbs : Int) else (d.point - 1).natAbs) = d.point - 1 := by
      split <;> omega
    simp only [decide_eq_true_eq]
    rw [List.take_append_drop, digitsValue_digits, digitsValue_digits, hexponent, List.length_drop]
    congr 2
    unfold Digits.point
    omega

end Binary64

end CostJournal
