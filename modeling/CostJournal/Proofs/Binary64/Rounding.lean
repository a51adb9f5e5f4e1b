import CostJournal.Binary64
import CostJournal.Proofs.HalfEven
import Mathlib.Algebra.Order.Field.Power
import Mathlib.Tactic.FieldSimp
import Mathlib.Tactic.GCongr
import Mathlib.Tactic.Linarith
import Mathlib.Tactic.NormNum
import Mathlib.Tactic.Positivity
import Mathlib.Tactic.Ring

/-!
# Rounding to doubles

`worth` is the rational that a double stands for. Rounding does not go beyond a double that a fraction is
not beyond (`worth_ofRatio_le`), reaches the next exponent only from half of a last bit below it
(`exponent_ofRatio_le`), and changes a natural by at most its part in `2 ^ 53` (`worth_ofNat_le`).
-/

namespace CostJournal

theorem twoPow_eq (n : Nat) : twoPow n = 2 ^ n := Nat.one_shiftLeft n

namespace Binary64
variable {num den : Nat}

/-- The rational that the double stands for. -/
def worth (x : Binary64) : ℚ := x.significand * 2 ^ x.exponent

theorem worth_nonneg (x : Binary64) : 0 ≤ x.worth := by
  unfold worth
  positivity

theorem twoTo_pos (e : Int) : (0 : ℚ) < twoTo e := Nat.cast_pos.mpr (twoPow_pos _)

theorem twoTo_div_twoTo_neg (e : Int) : (twoTo e : ℚ) / twoTo (-e) = 2 ^ e := by
  unfold twoTo
  rw [twoPow_eq, twoPow_eq]
  push_cast
  rcases Int.le_total 0 e with he | he
  · obtain ⟨n, rfl⟩ := Int.eq_ofNat_of_zero_le he
    simp
  · obtain ⟨n, hn⟩ := Int.eq_ofNat_of_zero_le (Int.neg_nonneg.mpr he)
    obtain rfl : e = -(n : Int) := by omega
    simp

theorem numerator_div_denominator (x : Binary64) : (x.numerator : ℚ) / x.denominator = x.worth := by
  unfold numerator denominator worth
  push_cast
  rw [mul_div_assoc, twoTo_div_twoTo_neg]

/-- The fraction in units of the last bit that it is rounded to. -/
theorem scaled_eq (num : Nat) (hden : 0 < den) (e : Int) :
    ((num * twoTo (-e) : ℕ) : ℚ) / (den * twoTo e : ℕ) = num / den / 2 ^ e := by
  have hpos := twoTo_pos e
  have hneg := twoTo_pos (-e)
  have hd : (0 : ℚ) < den := Nat.cast_pos.mpr hden
  rw [← twoTo_div_twoTo_neg]
  push_cast
  field_simp

/-- A natural is between two powers of two. -/
theorem log2_bounds {n : Nat} (h : 0 < n) : (2 : ℚ) ^ (n.log2 : Int) ≤ n ∧ (n : ℚ) < 2 ^ ((n.log2 : Int) + 1) := by
  constructor
  · exact_mod_cast Nat.log2_self_le (Nat.ne_of_gt h)
  · exact_mod_cast (Nat.lt_log2_self : n < 2 ^ (n.log2 + 1))

/-- The difference of the logarithms is right or one too small. -/
theorem quotient_bounds (hnum : 0 < num) (hden : 0 < den) {e : Int} (he : (num.log2 : Int) - den.log2 - 53 = e) :
    (2 ^ 52 * 2 ^ e : ℚ) ≤ num / den ∧ (num / den : ℚ) < 2 ^ 53 * 2 ^ (e + 1) := by
  have hd : (0 : ℚ) < den := Nat.cast_pos.mpr hden
  obtain ⟨hnumLow, hnumHigh⟩ := log2_bounds hnum
  obtain ⟨hdenLow, hdenHigh⟩ := log2_bounds hden
  constructor
  · rw [le_div_iff₀ hd]
    calc (2 ^ 52 * 2 ^ e : ℚ) * den ≤ 2 ^ 52 * 2 ^ e * 2 ^ ((den.log2 : Int) + 1) := by gcongr
      _ = 2 ^ (num.log2 : Int) := by
        rw [← zpow_natCast, ← zpow_add₀ two_ne_zero, ← zpow_add₀ two_ne_zero]
        congr 1
        push_cast
        omega
      _ ≤ num := hnumLow
  · rw [div_lt_iff₀ hd]
    calc (num : ℚ) < 2 ^ ((num.log2 : Int) + 1) := hnumHigh
      _ = 2 ^ 53 * 2 ^ (e + 1) * 2 ^ (den.log2 : Int) := by
        rw [← zpow_natCast, ← zpow_add₀ two_ne_zero, ← zpow_add₀ two_ne_zero]
        congr 1
        push_cast
        omega
      _ ≤ 2 ^ 53 * 2 ^ (e + 1) * den := by gcongr

/-- Whether a fraction needs more than 53 bits is found out on naturals. -/
theorem twoPow_mul_le_iff (hden : 0 < den) (e : Int) :
    twoPow 53 * den * twoTo e ≤ num * twoTo (-e) ↔ (2 ^ 53 * 2 ^ e : ℚ) ≤ num / den := by
  have hd : (0 : ℚ) < den := Nat.cast_pos.mpr hden
  have hpos := twoTo_pos (-e)
  rw [← twoTo_div_twoTo_neg, le_div_iff₀ hd, mul_div_assoc', div_mul_eq_mul_div, div_le_iff₀ hpos, twoPow_eq,
    ← Nat.cast_le (α := ℚ)]
  push_cast
  rw [mul_right_comm]
  norm_num

/-- The exponent leaves at most 53 bits, and exactly 53 where it is not the smallest one. -/
theorem exponentFor_bounds (hnum : 0 < num) (hden : 0 < den) :
    minExponent ≤ exponentFor num den ∧ (num / den : ℚ) < 2 ^ 53 * 2 ^ exponentFor num den ∧
      (minExponent < exponentFor num den → (2 ^ 52 * 2 ^ exponentFor num den : ℚ) ≤ num / den) := by
  unfold exponentFor
  extract_lets e e'
  obtain ⟨hlow, hhigh⟩ := quotient_bounds hnum hden (e := e) rfl
  have hbounds : (num / den : ℚ) < 2 ^ 53 * 2 ^ e' ∧ (2 ^ 52 * 2 ^ e' : ℚ) ≤ num / den := by
    unfold e'
    split
    next h =>
      refine ⟨hhigh, le_trans (le_of_eq ?_) ((twoPow_mul_le_iff hden e).mp h)⟩
      rw [zpow_add_one₀ two_ne_zero]
      ring
    next h => exact ⟨not_le.mp fun hle => h ((twoPow_mul_le_iff hden e).mpr hle), hlow⟩
  split
  next hmin =>
    refine ⟨le_rfl, hbounds.1.trans_le ?_, fun h => absurd h (lt_irrefl _)⟩
    gcongr
    norm_num
  next hmin => exact ⟨not_lt.mp hmin, hbounds.1, fun _ => hbounds.2⟩

theorem lt_of_mul_two_zpow_lt {p : ℚ} {k e : Int} (hp : 0 < p) (h : p * 2 ^ k < p * 2 ^ e) : k < e :=
  (zpow_lt_zpow_iff_right₀ one_lt_two).mp ((mul_lt_mul_iff_right₀ hp).mp h)

/-- No other exponent leaves exactly 53 bits. -/
theorem exponentFor_eq {k : Int} (hden : 0 < den) (hk : minExponent ≤ k) (hlow : (2 ^ 52 * 2 ^ k : ℚ) ≤ num / den)
    (hhigh : (num / den : ℚ) < 2 ^ 53 * 2 ^ k) : exponentFor num den = k := by
  have hnum : 0 < num := by
    rw [Nat.pos_iff_ne_zero]
    rintro rfl
    rw [Nat.cast_zero, zero_div] at hlow
    exact absurd hlow (not_le.mpr (by positivity))
  obtain ⟨hmin, hbits, hleast⟩ := exponentFor_bounds hnum hden
  have hnext : ∀ e : Int, (2 ^ 53 * 2 ^ e : ℚ) = 2 ^ 52 * 2 ^ (e + 1) := by
    intro e
    rw [zpow_add_one₀ two_ne_zero]
    ring
  rw [hnext] at hbits hhigh
  have hle : k < exponentFor num den + 1 := lt_of_mul_two_zpow_lt (by positivity) (hlow.trans_lt hbits)
  refine le_antisymm (not_lt.mp fun hlt => ?_) (by omega)
  have hgt : exponentFor num den < k + 1 :=
    lt_of_mul_two_zpow_lt (by positivity) ((hleast (hk.trans_lt hlt)).trans_lt hhigh)
  omega

/-- The value of a rounded fraction, also where its last bit carries over into another exponent. -/
theorem worth_ofRatio (num den : Nat) :
    (ofRatio num den).worth =
      roundHalfEven (num * twoTo (-exponentFor num den)) (den * twoTo (exponentFor num den)) *
        2 ^ exponentFor num den := by
  unfold ofRatio
  extract_lets e m
  split
  next hm =>
    have hvalue : (m : ℚ) = 2 ^ 53 := by
      rw [hm, twoPow_eq]
      norm_num
    show ((twoPow 52 : ℕ) : ℚ) * 2 ^ (e + 1) = m * 2 ^ e
    rw [hvalue, twoPow_eq, zpow_add_one₀ two_ne_zero]
    push_cast
    ring
  next => rfl

theorem scaled_lt (num : Nat) (hden : 0 < den) :
    ((num * twoTo (-exponentFor num den) : ℕ) : ℚ) / (den * twoTo (exponentFor num den) : ℕ) < 2 ^ 53 := by
  rcases Nat.eq_zero_or_pos num with rfl | hnum
  · simp
  · rw [scaled_eq num hden, div_lt_iff₀ (by positivity)]
    exact (exponentFor_bounds hnum hden).2.1

theorem scaled_pos (hden : 0 < den) (e : Int) : 0 < den * twoTo e := Nat.mul_pos hden (twoPow_pos _)

theorem significand_ofRatio_lt (num : Nat) (hden : 0 < den) : (ofRatio num den).significand < 2 ^ 53 := by
  have hle : roundHalfEven (num * twoTo (-exponentFor num den)) (den * twoTo (exponentFor num den)) ≤ 2 ^ 53 := by
    refine roundHalfEven_le_of_le (scaled_pos hden _) ?_
    push_cast
    exact_mod_cast (scaled_lt num hden).le
  unfold ofRatio
  extract_lets e m
  rw [twoPow_eq]
  split
  next =>
    show twoPow 52 < 2 ^ 53
    decide
  next hm => exact lt_of_le_of_ne hle hm

theorem worth_ofRatio_zero (den : Nat) : (ofRatio 0 den).worth = 0 := by
  rw [worth_ofRatio, Nat.zero_mul]
  simp [roundHalfEven]

/-- At a larger exponent, 53 bits are worth less than the least 53 bits there. -/
theorem mul_two_zpow_le_of_lt {m : Nat} {k e : Int} (hm : m ≤ 2 ^ 53) (h : k < e) :
    (m * 2 ^ k : ℚ) ≤ (2 ^ 52 : ℕ) * 2 ^ e := by
  calc (m * 2 ^ k : ℚ) ≤ 2 ^ 53 * 2 ^ (e - 1) := by
        gcongr
        · exact_mod_cast hm
        · norm_num
        · omega
    _ = (2 ^ 52 : ℕ) * 2 ^ e := by
        rw [zpow_sub_one₀ two_ne_zero]
        push_cast
        ring

/-- At a smaller exponent it is an integer in units of the last bit. -/
theorem exists_mul_two_zpow (m : Nat) {k e : Int} (h : e ≤ k) : ∃ n : Nat, (m * 2 ^ k : ℚ) = n * 2 ^ e := by
  obtain ⟨n, rfl⟩ := Int.le.dest h
  refine ⟨m * 2 ^ n, ?_⟩
  rw [zpow_add₀ two_ne_zero, zpow_natCast]
  push_cast
  ring

/-- Rounding does not go beyond a double. -/
theorem worth_ofRatio_le {m : Nat} {k : Int} (hden : 0 < den) (hm : m ≤ 2 ^ 53) (hk : minExponent ≤ k)
    (h : (num / den : ℚ) ≤ m * 2 ^ k) : (ofRatio num den).worth ≤ m * 2 ^ k := by
  rcases Nat.eq_zero_or_pos num with rfl | hnum
  · rw [worth_ofRatio_zero]
    positivity
  have hround : ∀ n : Nat, (num / den : ℚ) ≤ n * 2 ^ exponentFor num den →
      (ofRatio num den).worth ≤ n * 2 ^ exponentFor num den := by
    intro n hn
    rw [worth_ofRatio]
    gcongr
    refine roundHalfEven_le_of_le (scaled_pos hden _) ?_
    rwa [scaled_eq num hden, div_le_iff₀ (by positivity)]
  rcases le_or_gt (exponentFor num den) k with hle | hlt
  · obtain ⟨n, hn⟩ := exists_mul_two_zpow m hle
    rw [hn] at h ⊢
    exact hround n h
  · -- the fraction and the double are the least power of two of the larger exponent
    have hleast := (exponentFor_bounds hnum hden).2.2 (hk.trans_lt hlt)
    have hpower := mul_two_zpow_le_of_lt hm hlt
    refine (hround (2 ^ 52) (h.trans hpower)).trans (le_trans ?_ h)
    exact_mod_cast hleast

/-- Rounding does not go below a double either. -/
theorem le_worth_ofRatio {m : Nat} {k : Int} (hden : 0 < den) (hm : m ≤ 2 ^ 53) (hk : minExponent ≤ k)
    (h : (m * 2 ^ k : ℚ) ≤ num / den) : (m * 2 ^ k : ℚ) ≤ (ofRatio num den).worth := by
  have hround : ∀ n : Nat, (n * 2 ^ exponentFor num den : ℚ) ≤ num / den →
      (n * 2 ^ exponentFor num den : ℚ) ≤ (ofRatio num den).worth := by
    intro n hn
    rw [worth_ofRatio]
    gcongr
    refine le_roundHalfEven_of_le (scaled_pos hden _) ?_
    rwa [scaled_eq num hden, le_div_iff₀ (by positivity)]
  rcases le_or_gt (exponentFor num den) k with hle | hlt
  · obtain ⟨n, hn⟩ := exists_mul_two_zpow m hle
    rw [hn] at h ⊢
    exact hround n h
  · rcases Nat.eq_zero_or_pos num with rfl | hnum
    · rw [worth_ofRatio_zero]
      simpa using h
    have hleast := (exponentFor_bounds hnum hden).2.2 (hk.trans_lt hlt)
    have hworth := hround (2 ^ 52) (by exact_mod_cast hleast)
    refine le_trans (mul_two_zpow_le_of_lt hm hlt) hworth

theorem exponentFor_zero_le (den : Nat) : exponentFor 0 den ≤ 0 := by
  unfold exponentFor minExponent
  simp only [Nat.log2_zero]
  split <;> split <;> omega

/-- Half of a last bit below a power of two, the exponent is still below that of the power. -/
theorem exponent_ofRatio_le {k : Int} (hden : 0 < den) (hk : 0 ≤ k) (h : (num / den : ℚ) < (2 ^ 53 - 1 / 2) * 2 ^ k) :
    (ofRatio num den).exponent ≤ k := by
  have hexponent : exponentFor num den ≤ k := by
    rcases Nat.eq_zero_or_pos num with rfl | hnum
    · exact (exponentFor_zero_le den).trans hk
    by_contra hlt
    have hlt := not_le.mp hlt
    have hleast := (exponentFor_bounds hnum hden).2.2 (lt_of_lt_of_le (by decide) (hk.trans hlt.le))
    have hpower := mul_two_zpow_le_of_lt (le_refl (2 ^ 53)) hlt
    push_cast at hpower
    have hpos : (0 : ℚ) < 2 ^ k := by positivity
    linarith
  unfold ofRatio
  extract_lets e m
  split
  next hcarry =>
    have hne : e ≠ k := by
      rintro heq
      refine Nat.ne_of_lt (roundHalfEven_lt_of_lt (scaled_pos hden _) ?_) hcarry
      rw [scaled_eq num hden, div_lt_iff₀ (by positivity), heq, twoPow_eq]
      exact_mod_cast h
    show e + 1 ≤ k
    omega
  next => exact hexponent

/-- A natural changes by at most half of its last bit. -/
theorem worth_ofNat_le (n : Nat) : (ofNat n).worth ≤ n * (1 + 1 / 2 ^ 53) := by
  rcases Nat.eq_zero_or_pos n with rfl | hn
  · simp [ofNat, worth_ofRatio_zero]
  obtain ⟨hmin, hhigh, hleast⟩ := exponentFor_bounds hn Nat.one_pos
  have hpos : (0 : ℚ) < 2 ^ exponentFor n 1 := by positivity
  have hne : minExponent ≠ exponentFor n 1 := by
    intro heq
    have hone : (1 : ℚ) ≤ n := Nat.one_le_cast.mpr hn
    have hsmall : (2 ^ 53 * 2 ^ minExponent : ℚ) ≤ 1 := by
      rw [← zpow_natCast, ← zpow_add₀ two_ne_zero]
      exact zpow_le_one_of_nonpos₀ one_le_two (by decide)
    rw [← heq, Nat.cast_one, div_one] at hhigh
    linarith
  have hleast := hleast (lt_of_le_of_ne hmin hne)
  rw [Nat.cast_one, div_one] at hleast
  have hround := roundHalfEven_le_add_half (n * twoTo (-exponentFor n 1)) (scaled_pos Nat.one_pos (exponentFor n 1))
  rw [scaled_eq n Nat.one_pos, Nat.cast_one, div_one] at hround
  rw [ofNat, worth_ofRatio]
  calc _ ≤ ((n : ℚ) / 2 ^ exponentFor n 1 + 1 / 2) * 2 ^ exponentFor n 1 := by gcongr
    _ = n + 2 ^ exponentFor n 1 / 2 := by field_simp
    _ ≤ n * (1 + 1 / 2 ^ 53) := by linarith

end Binary64

end CostJournal
