import CostJournal.Proofs.Binary64.Digits
import CostJournal.Proofs.Decimal.Text

/-!
# Reading doubles back

A number is read by its leading digits and one product or quotient by a power of ten. That need not be
the nearest double, but it stays below `2 ^ 96` when the number is a double's last bit and a half below it
(`double?_isBelow`), and what is below `2 ^ 96` has digits that a decimal holds (`ofChars_toPositional`).
-/

namespace CostJournal.Binary64
open Json

/-- The double has an exponent of at most `k`, so it is less than `2 ^ (53 + k)`. -/
structure IsBelow (k : Int) (x : Binary64) : Prop where
  significand : x.significand < 2 ^ 53
  exponent : x.exponent ≤ k

variable {x y : Binary64} {k : Int} {num den : Nat}

theorem IsBelow.mono {k' : Int} (h : IsBelow k x) (hk : k ≤ k') : IsBelow k' x := ⟨h.1, h.2.trans hk⟩

theorem IsBelow.worth_le (h : IsBelow k x) : x.worth ≤ (2 ^ 53 - 1) * 2 ^ k := by
  have hsignificand : (x.significand + 1 : ℚ) ≤ 2 ^ 53 := by exact_mod_cast h.significand
  have hexponent := h.exponent
  calc x.worth ≤ (2 ^ 53 - 1) * 2 ^ x.exponent := by
        unfold worth
        gcongr
        linarith
    _ ≤ (2 ^ 53 - 1) * 2 ^ k := by
        gcongr
        norm_num

theorem isBelow_ofRatio (hden : 0 < den) (hk : 0 ≤ k) (h : (num / den : ℚ) < (2 ^ 53 - 1 / 2) * 2 ^ k) :
    IsBelow k (ofRatio num den) :=
  ⟨significand_ofRatio_lt num hden, exponent_ofRatio_le hden hk h⟩

theorem denominator_pos (x : Binary64) : 0 < x.denominator := twoPow_pos _

theorem product_eq (x y : Binary64) :
    ((x.numerator * y.numerator : ℕ) : ℚ) / (x.denominator * y.denominator : ℕ) = x.worth * y.worth := by
  rw [← numerator_div_denominator, ← numerator_div_denominator, div_mul_div_comm]
  push_cast
  rfl

theorem isBelow_mul (hk : 0 ≤ k) (h : x.worth * y.worth < (2 ^ 53 - 1 / 2) * 2 ^ k) : IsBelow k (x.mul y) :=
  isBelow_ofRatio (Nat.mul_pos x.denominator_pos y.denominator_pos) hk ((product_eq x y).trans_lt h)

theorem numerator_pos (h : 0 < x.worth) : 0 < x.numerator := by
  rw [Nat.pos_iff_ne_zero]
  intro hzero
  have hworth := numerator_div_denominator x
  rw [hzero, Nat.cast_zero, zero_div] at hworth
  exact absurd hworth (ne_of_lt h)

theorem quotient_eq (x y : Binary64) :
    ((x.numerator * y.denominator : ℕ) : ℚ) / (x.denominator * y.numerator : ℕ) = x.worth / y.worth := by
  rw [← numerator_div_denominator, ← numerator_div_denominator, div_div_div_eq]
  push_cast
  rfl

theorem isBelow_div (hk : 0 ≤ k) (hy : 1 ≤ y.worth) (hx : IsBelow k x) : IsBelow k (x.div y) := by
  refine isBelow_ofRatio (Nat.mul_pos x.denominator_pos (numerator_pos (one_pos.trans_le hy))) hk ?_
  rw [quotient_eq]
  calc x.worth / y.worth ≤ x.worth := div_le_self x.worth_nonneg hy
    _ ≤ (2 ^ 53 - 1) * 2 ^ k := hx.worth_le
    _ < (2 ^ 53 - 1 / 2) * 2 ^ k := by gcongr; norm_num

theorem one_le_worth_ofNat {n : Nat} (h : 0 < n) : 1 ≤ (ofNat n).worth := by
  have hone : ((1 : ℕ) * 2 ^ (0 : ℤ) : ℚ) ≤ n / (1 : ℕ) := by simpa using Nat.one_le_iff_ne_zero.mpr (Nat.ne_of_gt h)
  have hle := le_worth_ofRatio Nat.one_pos (by decide) (by decide) hone
  rwa [Nat.cast_one, one_mul, zpow_zero] at hle

theorem takeDigits_le (significand : Nat) (ds : List Char) :
    (takeDigits significand ds).1 * tenPow (takeDigits significand ds).2.length ≤ digitsValue significand ds ∧
      (takeDigits significand ds).2.length ≤ ds.length ∧
      (significand < twoPow 64 → (takeDigits significand ds).1 < twoPow 64) := by
  induction ds generalizing significand with
  | nil => exact ⟨Nat.le_of_eq (Nat.mul_one _), Nat.le_refl _, id⟩
  | cons d ds ih =>
    unfold takeDigits
    extract_lets next
    split
    next hnext =>
      obtain ⟨hvalue, hlength, hlt⟩ := ih next
      exact ⟨hvalue, Nat.le_succ_of_le hlength, fun _ => hlt hnext⟩
    next =>
      refine ⟨?_, Nat.le_refl _, id⟩
      rw [digitsValue_eq significand (d :: ds)]
      exact Nat.le_add_right _ _

/-- The largest number that is read as a double below `2 ^ 96` for sure. -/
def readLimit : ℚ := (2 ^ 53 - 3 / 2) * 2 ^ 43

theorem worth_ofNat_le_of_le {p : Nat} (h : p ≤ 2 ^ 53) : (ofNat p).worth ≤ p := by
  have hp : (p / (1 : ℕ) : ℚ) ≤ p * 2 ^ (0 : ℤ) := by simp
  have hle := worth_ofRatio_le Nat.one_pos h (by decide) hp
  rwa [zpow_zero, mul_one] at hle

theorem worth_tenPow_le {n : Nat} (h : n ≤ 22) : (ofNat (tenPow n)).worth ≤ 10 ^ n := by
  have hfive : 5 ^ n ≤ 2 ^ 53 := le_trans (Nat.pow_le_pow_right (by decide) h) (by decide)
  have hten : ((5 ^ n : ℕ) * 2 ^ (n : ℤ) : ℚ) = 10 ^ n := by
    rw [zpow_natCast]
    push_cast
    rw [← mul_pow]
    norm_num
  have hp : (tenPow n / (1 : ℕ) : ℚ) ≤ (5 ^ n : ℕ) * 2 ^ (n : ℤ) := by
    rw [hten, tenPow_eq]
    simp
  have hle := worth_ofRatio_le Nat.one_pos hfive (by unfold minExponent; omega) hp
  rwa [hten] at hle

/-- A number below the limit is rounded up by at most one double when it is put together. -/
theorem worth_mul_tenPow_lt {p n : Nat} (h : (p * 10 ^ n : ℚ) ≤ readLimit) :
    (ofNat p).worth * (ofNat (tenPow n)).worth < (2 ^ 53 - 1 / 2) * 2 ^ (43 : ℤ) := by
  have hproduct : (ofNat p).worth * (ofNat (tenPow n)).worth ≤ p * 10 ^ n * (1 + 1 / 2 ^ 53) := by
    -- one of the factors is exact
    by_cases hn : n ≤ 22
    · calc (ofNat p).worth * (ofNat (tenPow n)).worth ≤ p * (1 + 1 / 2 ^ 53) * 10 ^ n :=
            mul_le_mul (worth_ofNat_le p) (worth_tenPow_le hn) (worth_nonneg _) (by positivity)
        _ = p * 10 ^ n * (1 + 1 / 2 ^ 53) := by ring
    · have hp : p ≤ 2 ^ 53 := by
        have hten : (10 ^ 23 : ℚ) ≤ 10 ^ n := pow_le_pow_right₀ (by norm_num) (by omega)
        have hle : (p * 10 ^ 23 : ℚ) ≤ readLimit := le_trans (by gcongr) h
        have hlt : (p : ℚ) ≤ 2 ^ 53 := by
          unfold readLimit at hle
          norm_num at hle
          linarith
        exact_mod_cast hlt
      calc (ofNat p).worth * (ofNat (tenPow n)).worth ≤ p * (tenPow n * (1 + 1 / 2 ^ 53)) :=
            mul_le_mul (worth_ofNat_le_of_le hp) (worth_ofNat_le _) (worth_nonneg _) (by positivity)
        _ = p * 10 ^ n * (1 + 1 / 2 ^ 53) := by
            rw [tenPow_eq]
            push_cast
            ring
  calc (ofNat p).worth * (ofNat (tenPow n)).worth ≤ p * 10 ^ n * (1 + 1 / 2 ^ 53) := hproduct
    _ ≤ readLimit * (1 + 1 / 2 ^ 53) := by gcongr
    _ < (2 ^ 53 - 1 / 2) * 2 ^ (43 : ℤ) := by
        unfold readLimit
        norm_num

theorem isBelow_div_tenPow (hk : 0 ≤ k) (h : IsBelow k x) (n : Nat) : IsBelow k (x.div (ofNat (tenPow n))) :=
  isBelow_div hk (one_le_worth_ofNat (tenPow_pos n)) h

theorem isBelow_mul_one (hk : 0 ≤ k) (h : IsBelow k x) : IsBelow k (x.mul (ofNat (tenPow 0))) := by
  refine isBelow_mul hk ?_
  have hone : (ofNat (tenPow 0)).worth ≤ 1 := by
    have hle := worth_tenPow_le (Nat.zero_le 22)
    rwa [pow_zero] at hle
  calc x.worth * (ofNat (tenPow 0)).worth ≤ x.worth := mul_le_of_le_one_right x.worth_nonneg hone
    _ ≤ (2 ^ 53 - 1) * 2 ^ k := h.worth_le
    _ < (2 ^ 53 - 1 / 2) * 2 ^ k := by gcongr; norm_num

theorem IsBelow.isFinite (h : IsBelow k x) (hk : k ≤ 971) : x.isFinite = true := decide_eq_true (h.exponent.trans hk)

/-- Quotients by powers of ten stay below what they start from. -/
theorem scaled?_of_nonpos {exponent : Int} (hk : 0 ≤ k) (hfinite : k ≤ 971) (hx : IsBelow k x)
    (hexponent : exponent ≤ 0) (fuel : Nat) : ∃ y, scaled? x exponent fuel = some y ∧ IsBelow k y := by
  induction fuel generalizing x exponent with
  | zero => exact ⟨⟨0, minExponent⟩, rfl, Nat.two_pow_pos 53, le_trans (by decide) hk⟩
  | succ fuel ih =>
    by_cases hsmall : exponent.natAbs ≤ 308
    · by_cases hzero : 0 ≤ exponent
      · obtain rfl : exponent = 0 := le_antisymm hexponent hzero
        refine ⟨x.mul (ofNat (tenPow 0)), ?_, isBelow_mul_one hk hx⟩
        unfold scaled?
        rw [if_pos hsmall, if_pos hzero, Int.natAbs_zero]
        exact if_pos ((isBelow_mul_one hk hx).isFinite hfinite)
      · refine ⟨x.div (ofNat (tenPow exponent.natAbs)), ?_, isBelow_div_tenPow hk hx _⟩
        unfold scaled?
        rw [if_pos hsmall, if_neg hzero]
    · unfold scaled?
      rw [if_neg hsmall, if_neg (show ¬0 ≤ exponent by omega)]
      by_cases hzero : x.isZero = true
      · rw [if_pos hzero]
        exact ⟨x, rfl, hx⟩
      · rw [if_neg hzero]
        exact ih (isBelow_div_tenPow hk hx 308) (by omega)

theorem scaled?_isBelow {p : Nat} {exponent : Int} (hp : p < twoPow 64) (hexponent : exponent ≤ 28)
    (h : (p * 10 ^ exponent : ℚ) ≤ readLimit) (fuel : Nat) :
    ∃ x, scaled? (ofNat p) exponent (fuel + 1) = some x ∧ IsBelow 43 x := by
  rcases le_or_gt exponent 0 with hle | hpos
  · have hsignificand : IsBelow 12 (ofNat p) := by
      refine isBelow_ofRatio Nat.one_pos (by decide) ?_
      rw [Nat.cast_one, div_one]
      calc (p : ℚ) < 2 ^ 64 := by
            rw [twoPow_eq] at hp
            exact_mod_cast hp
        _ ≤ (2 ^ 53 - 1 / 2) * 2 ^ (12 : ℤ) := by norm_num
    obtain ⟨x, hx, hbelow⟩ := scaled?_of_nonpos (by decide) (by decide) hsignificand hle (fuel + 1)
    exact ⟨x, hx, hbelow.mono (by decide)⟩
  · obtain ⟨n, rfl⟩ := Int.eq_ofNat_of_zero_le hpos.le
    have hbelow : IsBelow 43 ((ofNat p).mul (ofNat (tenPow n))) :=
      isBelow_mul (by decide) (worth_mul_tenPow_lt (by rwa [zpow_natCast] at h))
    refine ⟨_, ?_, hbelow⟩
    unfold scaled?
    rw [if_pos (by omega), if_pos hpos.le, Int.natAbs_natCast]
    exact if_pos (hbelow.isFinite (by decide))

/-- Digits that are left out shift the power of ten. -/
theorem scaled?_takeDigits {whole : Nat} {fraction : List Char} {e : Int} (hwhole : whole < twoPow 64) (he : e ≤ 28)
    (h : (digitsValue whole fraction * 10 ^ (e - fraction.length) : ℚ) ≤ readLimit) :
    ∃ x, scaled? (ofNat (takeDigits whole fraction).1)
      (e - (fraction.length - (takeDigits whole fraction).2.length)) 5 = some x ∧ IsBelow 43 x := by
  obtain ⟨hvalue, hlength, hlt⟩ := takeDigits_le whole fraction
  refine scaled?_isBelow (hlt hwhole) (by omega) (le_trans ?_ h) 4
  have hshift : (10 ^ (e - (fraction.length - (takeDigits whole fraction).2.length)) : ℚ) =
      10 ^ (takeDigits whole fraction).2.length * 10 ^ (e - fraction.length) := by
    rw [← zpow_natCast, ← zpow_add₀ (by norm_num)]
    congr 1
    omega
  rw [hshift, ← mul_assoc]
  gcongr
  rw [tenPow_eq] at hvalue
  exact_mod_cast hvalue

/-- A numeral is read by its leading digits. -/
theorem double?_isBelow {n : Numeral} (hwhole : digitsValue 0 n.whole < twoPow 64) (hworth : n.worth ≤ readLimit)
    (hexponent : n.scale + n.fraction.length ≤ 28) : ∃ x, n.double? = some x ∧ IsBelow 43 x := by
  obtain ⟨negative, whole, fraction, exponent⟩ := n
  unfold Numeral.worth Numeral.scale at hworth
  unfold Numeral.scale at hexponent
  unfold Numeral.double?
  simp only [takeDigits_of_lt hwhole] at hworth hexponent ⊢
  rw [digitsValue_append] at hworth
  have hread := fun e : Int => @scaled?_takeDigits _ fraction e hwhole
  generalize takeDigits (digitsValue 0 whole) fraction = taken at hread
  obtain ⟨significand, rest⟩ := taken
  cases exponent with
  | none =>
    have hstart : (([] : List Char).length : Int) - (fraction.length - rest.length) =
        0 - (fraction.length - rest.length) := rfl
    simp only [hstart]
    exact hread 0 (by decide) hworth
  | some e =>
    obtain ⟨down, ds⟩ := e
    show ∃ x, (if maxWrittenExponent < digitsValue 0 ds then
      if significand ≠ 0 ∧ ¬down = true then none else some ⟨0, minExponent⟩
      else scaled? (ofNat significand) (if down then 0 - (fraction.length - rest.length) - digitsValue 0 ds
        else 0 - (fraction.length - rest.length) + digitsValue 0 ds) 5) = some x ∧ IsBelow 43 x
    cases down with
    | true =>
      by_cases hfar : maxWrittenExponent < digitsValue 0 ds
      · -- an exponent that is not even looked at leaves zero
        rw [if_pos hfar, if_neg (fun h => h.2 rfl)]
        exact ⟨_, rfl, Nat.two_pow_pos 53, by decide⟩
      · have hstart : (0 - (fraction.length - rest.length) - digitsValue 0 ds : Int) =
            -digitsValue 0 ds - (fraction.length - rest.length) := by omega
        rw [if_neg hfar, if_pos rfl, hstart]
        exact hread _ (by omega) hworth
    | false =>
      have hsmall : (digitsValue 0 ds : Int) ≤ 28 := by
        simp only [Bool.false_eq_true, if_false] at hexponent
        omega
      have hstart : (0 - (fraction.length - rest.length) + digitsValue 0 ds : Int) =
          digitsValue 0 ds - (fraction.length - rest.length) := by omega
      have hnear : ¬maxWrittenExponent < digitsValue 0 ds := by
        have : 28 ≤ maxWrittenExponent := by decide
        omega
      rw [if_neg hnear, if_neg Bool.false_ne_true, hstart]
      exact hread _ hsmall hworth

theorem tenPow_le_of_digits {n : Nat} (h : n ≠ 0) : tenPow ((digits n).length - 1) ≤ n := by
  induction n using Nat.strongRecOn with
  | _ n ih =>
    rw [digits]
    split
    next => exact Nat.pos_of_ne_zero h
    next hlt =>
      have hn := ih (n / 10) (by omega) (by omega)
      have hlength := List.length_pos_of_ne_nil (digits_ne_nil (n / 10))
      obtain ⟨k, hk⟩ := Nat.exists_eq_add_of_lt hlength
      rw [Nat.zero_add] at hk
      rw [hk, Nat.add_sub_cancel] at hn
      rw [List.length_append, List.length_singleton, Nat.add_sub_cancel, hk, tenPow_succ]
      omega

/-- Digits below the limit have their point after at most 29 of them. -/
theorem point_le {d : Digits} (hvalue : d.value ≠ 0 ∨ d.exponent = 0) (h : d.worth ≤ readLimit) :
    d.point - 1 ≤ 28 := by
  have hlength := List.length_pos_of_ne_nil (digits_ne_nil d.value)
  by_cases hzero : d.value = 0
  · have hexponent := hvalue.resolve_left (not_not.mpr hzero)
    rw [Digits.point, hexponent, hzero, digits_zero]
    decide
  · have hpower : (10 ^ (d.point - 1) : ℚ) ≤ d.worth := by
      have hdigits : (10 ^ ((digits d.value).length - 1) : ℚ) ≤ d.value := by
        have hle := tenPow_le_of_digits hzero
        rw [tenPow_eq] at hle
        exact_mod_cast hle
      have hpoint : d.point - 1 = (((digits d.value).length - 1 : ℕ) : Int) + d.exponent := by
        unfold Digits.point
        omega
      rw [hpoint, zpow_add₀ (by norm_num), zpow_natCast]
      unfold Digits.worth
      gcongr
    have hlt : (10 ^ (d.point - 1) : ℚ) < 10 ^ (29 : ℤ) :=
      (hpower.trans h).trans_lt (by unfold readLimit; norm_num)
    have := (zpow_lt_zpow_iff_right₀ (by norm_num : (1 : ℚ) < 10)).mp hlt
    omega

theorem length_whole_numeral (negative : Bool) (d : Digits) : (d.numeral negative).whole.length ≤ 16 := by
  unfold Digits.numeral
  split_ifs with hplain hexponent
  · obtain ⟨-, hpoint⟩ := Bool.and_eq_true_iff.mp hplain
    have hpoint := of_decide_eq_true hpoint
    unfold Digits.point at hpoint
    rw [List.length_append, List.length_replicate]
    omega
  · obtain ⟨-, hpoint⟩ := Bool.and_eq_true_iff.mp hplain
    have hpoint := of_decide_eq_true hpoint
    unfold Digits.point at hpoint
    simp only [wholePart, List.length_take, List.length_append, List.length_replicate]
    omega
  · exact (List.length_take_le 1 _).trans (by decide)

/-- The text of a float is read as a double below `2 ^ 96` when its digits are below the limit. -/
theorem double?_numeral {negative : Bool} {d : Digits} (hwritten : (d.numeral negative).IsWritten)
    (hvalue : d.value ≠ 0 ∨ d.exponent = 0) (h : d.worth ≤ readLimit) :
    ∃ x, (d.numeral negative).double? = some x ∧ IsBelow 43 x := by
  refine double?_isBelow ?_ ((worth_numeral negative d).trans_le h) ?_
  · refine (digitsValue_lt hwritten.whole.areDigits).trans_le ?_
    rw [tenPow_eq]
    exact (Nat.pow_le_pow_right (by decide) (length_whole_numeral negative d)).trans (by decide)
  · have hpoint := point_le hvalue h
    unfold Digits.numeral Numeral.scale
    split_ifs with hplain hexponent
    · simp
    · simp
    · simp only [digitsValue_digits, decide_eq_true_eq]
      split <;> omega

/-- The digits of a double below `2 ^ 96` leave room for one more before their point. -/
theorem worth_shortest_isBelow {halfway : Halfway} (h : IsBelow 43 x) :
    (x.shortest halfway).worth ≤ (2 ^ 53 - 1 / 2) * 2 ^ (43 : ℤ) := by
  refine worth_shortest_le h.significand ?_ (by norm_num)
  have hsignificand : (x.significand + 1 : ℚ) ≤ 2 ^ 53 := by exact_mod_cast h.significand
  have hexponent := h.exponent
  gcongr
  · linarith
  · norm_num

theorem digitsValue_wholePart_le (n places : Nat) :
    (digitsValue 0 (wholePart (digits n) places) : ℚ) ≤ n * 10 ^ (-places : ℤ) := by
  have hvalue := digitsValue_parts n places
  rw [digitsValue_append, digitsValue_eq, length_fractionPart, tenPow_eq] at hvalue
  have hle : (digitsValue 0 (wholePart (digits n) places) * 10 ^ places : ℚ) ≤ n := by
    exact_mod_cast Nat.le_of_add_right_le (Nat.le_of_eq hvalue)
  rw [zpow_neg, zpow_natCast, ← div_eq_mul_inv, le_div_iff₀ (by positivity)]
  exact hle

/-- A double below `2 ^ 96` is read as a decimal. -/
theorem exists_ofChars_doubleChars (h : IsBelow 43 x) (negative : Bool) :
    ∃ d, Decimal.ofChars (doubleChars negative x) = .ok d := by
  have hworth : (x.shortest .up).worth ≤ (2 ^ 53 - 1 / 2) * 2 ^ (43 : ℤ) := worth_shortest_isBelow h
  have hroom : ∀ n : Nat, (n : ℚ) ≤ (x.shortest .up).worth → n + 1 < coefficientLimit := by
    intro n hn
    have hlt : ((n + 1 : ℕ) : ℚ) < (2 ^ 96 : ℕ) := by
      push_cast
      norm_num at hworth ⊢
      linarith
    rw [coefficientLimit, twoPow_eq]
    exact Nat.cast_lt.mp hlt
  unfold doubleChars toPositional
  generalize x.shortest .up = d at hworth hroom
  by_cases hexponent : 0 ≤ d.exponent
  · obtain ⟨k, hk⟩ := Int.eq_ofNat_of_zero_le hexponent
    have hdigits : AreDigits (digits d.value ++ List.replicate d.exponent.toNat '0') :=
      (areDigits_digits _).append (.zeros _)
    have hvalue : (digitsValue 0 (digits d.value ++ List.replicate d.exponent.toNat '0') : ℚ) ≤ d.worth := by
      rw [digitsValue_append, digitsValue_digits, digitsValue_zeros, hk, Int.toNat_natCast, tenPow_eq]
      unfold Digits.worth
      rw [hk, zpow_natCast]
      push_cast
      rfl
    have hread := Decimal.ofChars_isOk negative hdigits
      (List.append_ne_nil_of_left_ne_nil (digits_ne_nil _) _) (hroom _ hvalue) (.inl rfl)
    rw [List.append_nil] at hread
    simpa only [if_pos hexponent] using hread
  · obtain ⟨hwhole, hfraction⟩ := areDigits_parts (areDigits_digits d.value) (-d.exponent).toNat
    have hvalue : (digitsValue 0 (wholePart (digits d.value) (-d.exponent).toNat) : ℚ) ≤ d.worth := by
      refine (digitsValue_wholePart_le _ _).trans_eq ?_
      rw [Int.toNat_of_nonneg (by omega), Int.neg_neg]
      rfl
    have hread := Decimal.ofChars_isOk negative hwhole (isWhole_wholePart _ _).ne_nil (hroom _ hvalue)
      (.inr ⟨_, rfl, hfraction⟩)
    simpa only [if_neg hexponent, pointed_eq] using hread

end CostJournal.Binary64
