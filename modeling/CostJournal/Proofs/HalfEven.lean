import CostJournal.Decimal.Basic
import Mathlib.Algebra.Order.Field.Basic
import Mathlib.Algebra.Order.Ring.Int
import Mathlib.Data.Rat.Cast.Order
import Mathlib.Tactic.Linarith
import Mathlib.Tactic.Ring

/-!
# Rounding half to even

A rounded fraction depends on the fraction alone, not on how it is written (`roundInt_eq_of_mul_eq`), and is at most a
half away (`abs_roundInt_sub_le`). As a half goes to the even neighbour, it is told exactly when the rounded one
reaches an even number or is beyond it (`le_roundHalfEven_iff`, `lt_roundInt_iff`). `halfEven` is the same for a
rational number, told by its distance from the integer (`halfEven_eq_iff`); it is the same on both sides of zero
(`halfEven_neg`) and keeps the order (`halfEven_le_halfEven`).
-/

namespace CostJournal

section
variable {num den n : Nat}

theorem roundHalfEven_mul_right (num den : Nat) {k : Nat} (hk : 0 < k) :
    roundHalfEven (num * k) (den * k) = roundHalfEven num den := by
  have htwice : ∀ m n : Nat, 2 * (m * k) < n * k ↔ 2 * m < n := by
    intro m n
    rw [← Nat.mul_assoc, Nat.mul_lt_mul_right hk]
  have htwice' : ∀ m n : Nat, n * k < 2 * (m * k) ↔ n < 2 * m := by
    intro m n
    rw [← Nat.mul_assoc, Nat.mul_lt_mul_right hk]
  simp only [roundHalfEven, Nat.mul_div_mul_right _ _ hk, Nat.mul_mod_mul_right, htwice, htwice']

theorem roundHalfEven_mul_self (n : Nat) {den : Nat} (h : 0 < den) :
    roundHalfEven (n * den) den = n := by
  have hscaled := roundHalfEven_mul_right n 1 h
  rwa [Nat.one_mul, roundHalfEven_one] at hscaled

/-- A rounded fraction is at most a half away. -/
theorem two_mul_roundHalfEven (num : Nat) {den : Nat} (h : 0 < den) :
    2 * (den * roundHalfEven num den) ≤ 2 * num + den ∧ 2 * num ≤ 2 * (den * roundHalfEven num den) + den := by
  have hnum := Nat.div_add_mod num den
  have hrest := Nat.mod_lt num h
  unfold roundHalfEven
  generalize num / den = q, num % den = r at hnum hrest
  subst hnum
  simp only
  split
  · omega
  · split
    · rw [Nat.mul_succ]
      omega
    · rcases Nat.mod_two_eq_zero_or_one q with hq | hq
      · rw [hq, Nat.add_zero]
        omega
      · rw [hq, Nat.mul_succ]
        omega

theorem roundHalfEven_le_add_half (num : Nat) {den : Nat} (h : 0 < den) :
    (roundHalfEven num den : ℚ) ≤ num / den + 1 / 2 := by
  have hden : (0 : ℚ) < den := Nat.cast_pos.mpr h
  have hle : (2 * (den * roundHalfEven num den) : ℚ) ≤ 2 * num + den := by
    exact_mod_cast (two_mul_roundHalfEven num h).1
  rw [← sub_le_iff_le_add, le_div_iff₀ hden]
  linarith

/-- Where a fraction is not beyond an integer, neither is the rounded one. -/
theorem roundHalfEven_le_of_le {num den n : Nat} (hden : 0 < den) (h : (num / den : ℚ) ≤ n) :
    roundHalfEven num den ≤ n := by
  have hle := roundHalfEven_le_add_half num hden
  have hlt : (roundHalfEven num den : ℚ) < (n + 1 : ℕ) := by
    push_cast
    linarith
  exact Nat.lt_succ_iff.mp (Nat.cast_lt.mp hlt)

theorem sub_half_le_roundHalfEven (num : Nat) {den : Nat} (h : 0 < den) :
    (num / den - 1 / 2 : ℚ) ≤ roundHalfEven num den := by
  have hden : (0 : ℚ) < den := Nat.cast_pos.mpr h
  have hle : (2 * num : ℚ) ≤ 2 * (den * roundHalfEven num den) + den := by
    exact_mod_cast (two_mul_roundHalfEven num h).2
  rw [sub_le_iff_le_add, div_le_iff₀ hden]
  linarith

theorem le_roundHalfEven_of_le {num den n : Nat} (hden : 0 < den) (h : (n : ℚ) ≤ num / den) :
    n ≤ roundHalfEven num den := by
  have hle := sub_half_le_roundHalfEven num hden
  have hlt : (n : ℚ) < (roundHalfEven num den + 1 : ℕ) := by
    push_cast
    linarith
  exact Nat.lt_succ_iff.mp (Nat.cast_lt.mp hlt)

/-- Less than half below an integer, a fraction is not rounded up to it. -/
theorem roundHalfEven_lt_of_lt {num den n : Nat} (hden : 0 < den) (h : (num / den : ℚ) < n - 1 / 2) :
    roundHalfEven num den < n := by
  have hle := roundHalfEven_le_add_half num hden
  have hlt : (roundHalfEven num den : ℚ) < n := by linarith
  exact Nat.cast_lt.mp hlt

/-- Halfway between two neighbours a fraction goes to the even one. -/
theorem roundHalfEven_mod_two (hden : 0 < den) (h : 2 * num = 2 * (den * n) + den) :
    roundHalfEven num den % 2 = 0 := by
  have hnum : num = den * n + num % den := by
    have hlt := Nat.mod_lt num hden
    have hdiv := Nat.div_add_mod num den
    rcases Nat.lt_trichotomy (num / den) n with hn | hn | hn
    · have := Nat.mul_le_mul_left den hn
      rw [Nat.mul_succ] at this
      omega
    · rw [← hn]
      exact hdiv.symm
    · have := Nat.mul_le_mul_left den hn
      rw [Nat.mul_succ] at this
      omega
  unfold roundHalfEven
  simp only
  rw [if_neg (by omega), if_neg (by omega)]
  omega

theorem le_roundHalfEven_iff (hden : 0 < den) (heven : n % 2 = 0) :
    n ≤ roundHalfEven num den ↔ 2 * (den * n) ≤ 2 * num + den := by
  obtain ⟨hlow, hhigh⟩ := two_mul_roundHalfEven num hden
  constructor
  · intro h
    have := Nat.mul_le_mul_left den h
    omega
  · refine fun h => Nat.le_of_not_lt fun hlt => ?_
    have hnext := Nat.mul_le_mul_left den hlt
    rw [Nat.mul_succ] at hnext
    -- only a half that goes up is left, and an even number is not one above an even one
    have htie := roundHalfEven_mod_two hden (show 2 * num = 2 * (den * roundHalfEven num den) + den by omega)
    have hle : den * n ≤ den * (roundHalfEven num den + 1) := by
      rw [Nat.mul_succ]
      omega
    have := Nat.le_of_mul_le_mul_left hle hden
    omega

theorem roundHalfEven_le_iff (hden : 0 < den) (heven : n % 2 = 0) :
    roundHalfEven num den ≤ n ↔ 2 * num ≤ 2 * (den * n) + den := by
  obtain ⟨hlow, hhigh⟩ := two_mul_roundHalfEven num hden
  constructor
  · intro h
    have := Nat.mul_le_mul_left den h
    omega
  · refine fun h => Nat.le_of_not_lt fun hlt => ?_
    have hnext := Nat.mul_le_mul_left den hlt
    rw [Nat.mul_succ] at hnext
    have htie := roundHalfEven_mod_two hden (show 2 * num = 2 * (den * n) + den by omega)
    have hle : den * roundHalfEven num den ≤ den * (n + 1) := by
      rw [Nat.mul_succ]
      omega
    have := Nat.le_of_mul_le_mul_left hle hden
    omega

end

theorem roundInt_mul_right (num : Int) (den : Nat) {k : Nat} (hk : 0 < k) :
    roundInt (num * k) (den * k) = roundInt num den := by
  rw [roundInt, roundInt, Int.sign_mul, Int.sign_natCast_of_ne_zero (Nat.ne_of_gt hk), Int.mul_one,
    Int.natAbs_mul, Int.natAbs_natCast, roundHalfEven_mul_right _ _ hk]

theorem roundInt_mul_self (n : Int) {den : Nat} (h : 0 < den) : roundInt (n * den) den = n := by
  rw [roundInt, Int.sign_mul, Int.sign_natCast_of_ne_zero (Nat.ne_of_gt h), Int.mul_one,
    Int.natAbs_mul, Int.natAbs_natCast, roundHalfEven_mul_self _ h, Int.sign_mul_natAbs]

/-- Two ways to write one fraction are rounded alike. -/
theorem roundInt_eq_of_mul_eq {num num' : Int} {den den' : Nat} (hden : 0 < den) (hden' : 0 < den')
    (h : num * den' = num' * den) : roundInt num den = roundInt num' den' := by
  calc roundInt num den = roundInt (num * den') (den * den') := (roundInt_mul_right _ _ hden').symm
    _ = roundInt (num' * den) (den' * den) := by rw [h, Nat.mul_comm den]
    _ = roundInt num' den' := roundInt_mul_right _ _ hden

theorem natAbs_roundInt (num : Int) (den : Nat) : (roundInt num den).natAbs = roundHalfEven num.natAbs den := by
  rw [roundInt, Int.natAbs_mul, Int.natAbs_natCast]
  rcases eq_or_ne num 0 with rfl | h
  · simp [roundHalfEven]
  · rw [Int.natAbs_sign_of_ne_zero h, Nat.one_mul]

theorem abs_roundInt_sub_le (num : Int) {den : Nat} (hden : 0 < den) :
    |(roundInt num den : ℚ) - num / den| ≤ 1 / 2 := by
  have hlow := roundHalfEven_le_add_half num.natAbs hden
  have hhigh := sub_half_le_roundHalfEven num.natAbs hden
  have hnum : (num : ℚ) = num.sign * (num.natAbs : ℚ) := by
    rw [← Int.cast_natCast, ← Int.cast_mul, Int.sign_mul_natAbs]
  have hsign : |(num.sign : ℚ)| ≤ 1 := by
    rcases Int.lt_trichotomy num 0 with h | h | h
    · simp [Int.sign_eq_neg_one_of_neg h]
    · simp [h]
    · simp [Int.sign_eq_one_of_pos h]
  calc |(roundInt num den : ℚ) - num / den|
      = |(num.sign : ℚ)| * |(roundHalfEven num.natAbs den : ℚ) - num.natAbs / den| := by
        rw [← abs_mul, mul_sub, ← mul_div_assoc, ← hnum, roundInt]
        push_cast
        rfl
    _ ≤ 1 * (1 / 2) := by
        refine mul_le_mul hsign (abs_sub_le_iff.mpr ⟨?_, ?_⟩) (abs_nonneg _) zero_le_one <;> linarith
    _ = 1 / 2 := one_mul _

theorem roundInt_neg (num : Int) (den : Nat) : roundInt (-num) den = -roundInt num den := by
  rw [roundInt, roundInt, Int.sign_neg, Int.natAbs_neg, Int.neg_mul]

/-- A fraction is rounded beyond an even number when it is more than a half beyond it. -/
theorem lt_roundInt_iff (num : Int) {den n : Nat} (hden : 0 < den) (heven : n % 2 = 0) :
    (n : Int) < roundInt num den ↔ (n + 1 / 2 : ℚ) < num / den := by
  have hpos : (0 : ℚ) < den := Nat.cast_pos.mpr hden
  rcases Int.le_total num 0 with hnum | hnum
  · have hround : roundInt num den ≤ 0 :=
      Int.mul_nonpos_of_nonpos_of_nonneg (Int.sign_nonpos_iff.mpr hnum) (Int.natCast_nonneg _)
    have hfraction : (num : ℚ) / den ≤ 0 := div_nonpos_of_nonpos_of_nonneg (Int.cast_nonpos.mpr hnum) hpos.le
    have hn : (0 : ℚ) ≤ n := Nat.cast_nonneg n
    exact iff_of_false (by omega) (by linarith)
  · obtain ⟨m, rfl⟩ := Int.eq_ofNat_of_zero_le hnum
    have hround : roundInt m den = roundHalfEven m den := by
      rcases Nat.eq_zero_or_pos m with rfl | hm
      · simp [roundInt, roundHalfEven]
      · rw [roundInt, Int.sign_eq_one_of_pos (Int.natCast_pos.mpr hm), Int.one_mul, Int.natAbs_natCast]
    rw [hround, Int.ofNat_lt, ← Nat.not_le, roundHalfEven_le_iff hden heven, Nat.not_le, lt_div_iff₀ hpos,
      ← Nat.cast_lt (α := ℚ)]
    push_cast
    constructor <;> intro h <;> linarith

/-- A rational number rounded to the nearest integer, a half to the even neighbour. -/
def halfEven (q : ℚ) : Int := roundInt q.num q.den

theorem roundInt_eq_halfEven (num : Int) {den : Nat} (hden : 0 < den) : roundInt num den = halfEven (num / den) := by
  refine roundInt_eq_of_mul_eq hden (Rat.den_pos _) ?_
  have hcast : (den : ℚ) ≠ 0 := (Nat.cast_pos.mpr hden).ne'
  have hreduced := Rat.num_div_den ((num : ℚ) / den)
  rw [div_eq_div_iff (Nat.cast_ne_zero.mpr (Rat.den_nz _)) hcast] at hreduced
  exact_mod_cast hreduced.symm

theorem abs_halfEven_sub_le (q : ℚ) : |(halfEven q : ℚ) - q| ≤ 1 / 2 := by
  have h := abs_roundInt_sub_le q.num q.den_pos
  rwa [Rat.num_div_den] at h

theorem halfEven_neg (q : ℚ) : halfEven (-q) = -halfEven q := by
  rw [halfEven, halfEven, Rat.num_neg_eq_neg_num, Rat.den_neg_eq_den, roundInt_neg]

/-- Rounding keeps the order: a larger number that is rounded to less is halfway between the two integers, and so is
the smaller one. -/
theorem halfEven_le_halfEven {p q : ℚ} (h : p ≤ q) : halfEven p ≤ halfEven q := by
  by_contra hlt
  have hstep : (halfEven q + 1 : ℚ) ≤ halfEven p := by exact_mod_cast Int.add_one_le_of_lt (Int.not_le.mp hlt)
  obtain ⟨-, hp⟩ := abs_le.mp (abs_halfEven_sub_le p)
  obtain ⟨hq, -⟩ := abs_le.mp (abs_halfEven_sub_le q)
  have heq : p = q := le_antisymm h (by linarith)
  exact hlt (heq ▸ Int.le_refl _)

/-- Halfway between two integers a number goes to the even one. -/
theorem halfEven_mod_two {q : ℚ} {n : Int} (h : |q - n| = 1 / 2) : halfEven q % 2 = 0 := by
  obtain ⟨m, hm⟩ : ∃ m : Int, 2 * q = 2 * m + 1 := by
    rcases abs_cases (q - n) with ⟨habs, -⟩ | ⟨habs, -⟩
    · exact ⟨n, by linarith⟩
    · refine ⟨n - 1, ?_⟩
      push_cast
      linarith
  have hnum : 2 * q.num = (2 * m + 1) * q.den := by
    have hcast : (2 * q.num : ℚ) = (2 * m + 1) * q.den := by rw [← Rat.mul_den_eq_num, ← mul_assoc, hm]
    exact_mod_cast hcast
  have htie : 2 * q.num.natAbs = 2 * (q.den * ((2 * m + 1).natAbs / 2)) + q.den := by
    have hodd : (2 * m + 1).natAbs = 2 * ((2 * m + 1).natAbs / 2) + 1 := by omega
    have habs := congrArg Int.natAbs hnum
    rw [Int.natAbs_mul, Int.natAbs_mul, Int.natAbs_natCast, hodd] at habs
    rw [show 2 * q.num.natAbs = _ from habs]
    ring
  have heven := roundHalfEven_mod_two q.den_pos htie
  rw [← natAbs_roundInt, ← halfEven] at heven
  omega

/-- A number is rounded to an integer when it is nearer to it than a half, or a half away and the integer is even. -/
theorem halfEven_eq_iff {q : ℚ} {n : Int} : halfEven q = n ↔ |q - n| < 1 / 2 ∨ |q - n| = 1 / 2 ∧ n % 2 = 0 := by
  have hnear := abs_halfEven_sub_le q
  have htriangle := abs_sub_le (halfEven q : ℚ) q n
  constructor
  · rintro rfl
    rw [abs_sub_comm] at hnear
    rcases lt_or_eq_of_le hnear with hlt | heq
    · exact .inl hlt
    · exact .inr ⟨heq, halfEven_mod_two heq⟩
  · rintro (hlt | ⟨heq, heven⟩)
    · have hlt : |halfEven q - n| < 1 := by
        have : |(halfEven q : ℚ) - n| < 1 := by linarith
        exact_mod_cast this
      exact Int.sub_eq_zero.mp (Int.abs_lt_one_iff.mp hlt)
    · -- both integers are even and at most one apart
      have hle : |halfEven q - n| ≤ 1 := by
        have : |(halfEven q : ℚ) - n| ≤ 1 := by linarith
        exact_mod_cast this
      have hrounded := halfEven_mod_two heq
      obtain ⟨hlow, hhigh⟩ := abs_le.mp hle
      omega

end CostJournal
