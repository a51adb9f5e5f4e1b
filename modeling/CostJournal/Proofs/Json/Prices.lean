import CostJournal.Proofs.Binary64.Reading

/-!
# Prices that are read back

A price is written as a double, and the double of almost every decimal is read as a decimal again. Only that
of a decimal without places within half a last bit of `2 ^ 96` is that power itself, which no decimal reaches
(`decimal?_ofDecimal_isSome_iff`).
-/

namespace CostJournal
open Binary64

namespace Binary64
variable {x y : Binary64} {m n : Nat} {k : Int}

theorem worth_add_le (hm : m ≤ 2 ^ 53) (hk : minExponent ≤ k) (h : x.worth + y.worth ≤ m * 2 ^ k) :
    (x.add y).worth ≤ m * 2 ^ k := by
  have hx : (x.denominator : ℚ) ≠ 0 := Nat.cast_ne_zero.mpr (Nat.ne_of_gt x.denominator_pos)
  have hy : (y.denominator : ℚ) ≠ 0 := Nat.cast_ne_zero.mpr (Nat.ne_of_gt y.denominator_pos)
  have hsum : ((x.numerator * y.denominator + y.numerator * x.denominator : ℕ) : ℚ) /
      (x.denominator * y.denominator : ℕ) = x.worth + y.worth := by
    rw [← numerator_div_denominator, ← numerator_div_denominator]
    push_cast
    field_simp
  exact worth_ofRatio_le (Nat.mul_pos x.denominator_pos y.denominator_pos) hm hk (hsum.trans_le h)

theorem worth_mul_le (hm : m ≤ 2 ^ 53) (hk : minExponent ≤ k) (h : x.worth * y.worth ≤ m * 2 ^ k) :
    (x.mul y).worth ≤ m * 2 ^ k :=
  worth_ofRatio_le (Nat.mul_pos x.denominator_pos y.denominator_pos) hm hk ((product_eq x y).trans_le h)

theorem worth_div_le (hm : m ≤ 2 ^ 53) (hk : minExponent ≤ k) (hy : 0 < y.worth) (h : x.worth / y.worth ≤ m * 2 ^ k) :
    (x.div y).worth ≤ m * 2 ^ k :=
  worth_ofRatio_le (Nat.mul_pos x.denominator_pos (numerator_pos hy)) hm hk ((quotient_eq x y).trans_le h)

/-- What is not beyond a whole number is not rounded beyond it. -/
theorem round_le (h : x.worth ≤ n) : x.round ≤ n := by
  have hden := x.denominator_pos
  have hnum : x.numerator ≤ n * x.denominator := by
    rw [← numerator_div_denominator, div_le_iff₀ (Nat.cast_pos.mpr hden)] at h
    exact_mod_cast h
  have hnext : n.succ * (2 * x.denominator) = 2 * (n * x.denominator) + 2 * x.denominator := by
    rw [Nat.succ_mul, Nat.mul_left_comm]
  rw [round, roundHalfUp, ← Nat.lt_succ_iff, Nat.div_lt_iff_lt_mul (by omega), hnext]
  omega

end Binary64

/-- The fraction of a decimal is rounded to at most two. -/
theorem worth_fraction_le {n p : Nat} (hp : 0 < p) (hn : n ≤ p) : (div (ofNat n) (ofNat p)).worth ≤ (1 : ℕ) * 2 ^ (1 : ℤ) := by
  obtain ⟨hlow, hhigh⟩ := log2_bounds hp
  have hmin : minExponent ≤ (p.log2 : Int) := by
    unfold minExponent
    omega
  have hdivisor : ((1 : ℕ) * 2 ^ (p.log2 : Int) : ℚ) ≤ (ofNat p).worth :=
    le_worth_ofRatio Nat.one_pos (by decide) hmin (by simpa using hlow)
  have hdividend : (ofNat n).worth ≤ (1 : ℕ) * 2 ^ ((p.log2 : Int) + 1) := by
    refine worth_ofRatio_le Nat.one_pos (by decide) (by omega) ?_
    have hle : (n : ℚ) ≤ p := Nat.cast_le.mpr hn
    simpa using hle.trans hhigh.le
  rw [Nat.cast_one, one_mul] at hdivisor hdividend
  refine worth_div_le (by decide) (by decide) (lt_of_lt_of_le (by positivity) hdivisor) ?_
  rw [div_le_iff₀ (lt_of_lt_of_le (by positivity) hdivisor)]
  calc (ofNat n).worth ≤ 2 ^ (p.log2 : Int) * 2 := by rwa [zpow_add_one₀ two_ne_zero] at hdividend
    _ ≤ (1 : ℕ) * 2 ^ (1 : ℤ) * (ofNat p).worth := by
        rw [zpow_one]
        push_cast
        linarith

theorem lt_exponent_ofNat {p : Nat} (hp : 0 < p) : -53 < (ofNat p).exponent := by
  have hlt : (2 ^ (-53 : ℤ) : ℚ) < 2 ^ (ofNat p).exponent := by
    have hone : (1 : ℚ) ≤ (ofNat p).significand * 2 ^ (ofNat p).exponent := one_le_worth_ofNat hp
    have hsignificand : ((ofNat p).significand : ℚ) < 2 ^ 53 := by
      exact_mod_cast significand_ofRatio_lt p Nat.one_pos
    rw [zpow_neg, inv_lt_iff_one_lt_mul₀ (by positivity)]
    calc (1 : ℚ) ≤ (ofNat p).significand * 2 ^ (ofNat p).exponent := hone
      _ < 2 ^ 53 * 2 ^ (ofNat p).exponent := by gcongr
      _ = 2 ^ (ofNat p).exponent * 2 ^ (53 : ℤ) := mul_comm _ _
  exact (zpow_lt_zpow_iff_right₀ one_lt_two).mp hlt

/-- Rounding to places keeps a double below a power of two: what is computed in between is that power in
units of the last place. -/
theorem worth_toPlaces_le {p : Nat} {x : Binary64} {k : Nat} (hp : 0 < p) (hk : 53 ≤ k) (hx : x.worth ≤ 2 ^ k) :
    (ofNat (x.mul (ofNat p)).round).worth / (ofNat p).worth ≤ 2 ^ k := by
  have hone := one_le_worth_ofNat hp
  have hsignificand : (ofNat p).significand < 2 ^ 53 := significand_ofRatio_lt p Nat.one_pos
  have hexponent := lt_exponent_ofNat hp
  obtain ⟨e, he⟩ := Int.eq_ofNat_of_zero_le (show 0 ≤ (ofNat p).exponent + k by omega)
  have hunits : ((ofNat p).significand * 2 ^ ((ofNat p).exponent + k) : ℚ) = 2 ^ k * (ofNat p).worth := by
    unfold worth
    rw [zpow_add₀ two_ne_zero, zpow_natCast]
    ring
  have hmin : minExponent ≤ (ofNat p).exponent + k := by
    unfold minExponent
    omega
  have hproduct : (x.mul (ofNat p)).worth ≤ (ofNat p).significand * 2 ^ ((ofNat p).exponent + k) := by
    refine worth_mul_le hsignificand.le hmin ?_
    rw [hunits]
    gcongr
  have hround : (x.mul (ofNat p)).round ≤ (ofNat p).significand * 2 ^ e := by
    refine round_le (hproduct.trans_eq ?_)
    rw [he, zpow_natCast]
    push_cast
    rfl
  have hrounded : (ofNat (x.mul (ofNat p)).round).worth ≤ (ofNat p).significand * 2 ^ ((ofNat p).exponent + k) := by
    refine worth_ofRatio_le Nat.one_pos hsignificand.le hmin ?_
    rw [Nat.cast_one, div_one, he, zpow_natCast]
    exact_mod_cast hround
  rw [div_le_iff₀ (one_pos.trans_le hone), ← hunits]
  exact hrounded

/-- A decimal with places has a double well below the power of two that no decimal reaches. -/
theorem isBelow_ofDecimal_of_scale {d : Decimal} (h : d.scale ≠ 0) : IsBelow 42 (ofDecimal d) := by
  have hpow : 10 ≤ tenPow d.scale := by
    obtain ⟨s, hs⟩ := Nat.exists_eq_succ_of_ne_zero h
    rw [hs, tenPow_succ]
    have := tenPow_pos s
    omega
  have hwhole : (d.magnitude / tenPow d.scale : ℕ) ≤ 2 ^ 93 := by
    have hlt := d.magnitude_lt
    rw [coefficientLimit, twoPow_eq] at hlt
    calc d.magnitude / tenPow d.scale ≤ d.magnitude / 10 := Nat.div_le_div_left hpow (by decide)
      _ ≤ 2 ^ 93 := by omega
  have hworth : (ofNat (d.magnitude / tenPow d.scale)).worth ≤ (1 : ℕ) * 2 ^ (93 : ℤ) := by
    refine worth_ofRatio_le Nat.one_pos (by decide) (by decide) ?_
    rw [Nat.cast_one, div_one, one_mul]
    exact_mod_cast hwhole
  rw [Nat.cast_one, one_mul] at hworth
  have hfraction := worth_fraction_le (tenPow_pos d.scale) (Nat.mod_lt d.magnitude (tenPow_pos d.scale)).le
  unfold ofDecimal
  extract_lets n p whole fraction
  split
  · refine isBelow_ofRatio Nat.one_pos (by decide) ?_
    calc ((n / p : ℕ) / (1 : ℕ) : ℚ) ≤ 2 ^ 93 := by
          rw [Nat.cast_one, div_one]
          exact_mod_cast hwhole
      _ < (2 ^ 53 - 1 / 2) * 2 ^ (42 : ℤ) := by norm_num
  · have hsum : (add whole fraction).worth ≤ (1 : ℕ) * 2 ^ (94 : ℤ) := by
      refine worth_add_le (by decide) (by decide) ((add_le_add hworth hfraction).trans ?_)
      norm_num
    rw [Nat.cast_one, one_mul] at hsum
    have hpos : 0 < (ofNat p).worth := one_pos.trans_le (one_le_worth_ofNat (tenPow_pos _))
    refine isBelow_ofRatio (Nat.mul_pos (denominator_pos _) (numerator_pos hpos)) (by decide) ?_
    rw [quotient_eq]
    exact (worth_toPlaces_le (tenPow_pos _) (by decide) hsum).trans_lt (by norm_num)

/-- The decimal has no places and is at most half of a double's last bit below `2 ^ 96`. -/
def Decimal.RoundsToLimit (d : Decimal) : Prop := d.scale = 0 ∧ twoPow 96 - twoPow 42 ≤ d.magnitude

instance (d : Decimal) : Decidable d.RoundsToLimit := inferInstanceAs (Decidable (_ ∧ _))

theorem ofDecimal_of_scale {d : Decimal} (h : d.scale = 0) : ofDecimal d = ofNat d.magnitude := by
  have hplaces : (decide (d.scale = 0) || (div (ofNat (d.magnitude % tenPow d.scale))
      (ofNat (tenPow d.scale))).isZero) = true := by rw [decide_eq_true h, Bool.true_or]
  unfold ofDecimal
  simp only [if_pos hplaces]
  rw [h, tenPow_zero, Nat.div_one]

theorem isBelow_ofDecimal {d : Decimal} (h : ¬d.RoundsToLimit) : IsBelow 43 (ofDecimal d) := by
  by_cases hscale : d.scale = 0
  · have hmagnitude : d.magnitude < 2 ^ 96 - 2 ^ 42 := by
      have hlt := Nat.lt_of_not_le fun hle => h ⟨hscale, hle⟩
      rwa [twoPow_eq, twoPow_eq] at hlt
    rw [ofDecimal_of_scale hscale]
    refine isBelow_ofRatio Nat.one_pos (by decide) ?_
    have hlt : (d.magnitude : ℚ) < (2 ^ 96 - 2 ^ 42 : ℕ) := Nat.cast_lt.mpr hmagnitude
    rw [Nat.cast_one, div_one]
    norm_num at hlt ⊢
    exact hlt
  · exact (isBelow_ofDecimal_of_scale hscale).mono (by decide)

theorem ofDecimal_of_roundsToLimit {d : Decimal} (h : d.RoundsToLimit) : ofDecimal d = ⟨twoPow 52, 44⟩ := by
  obtain ⟨hscale, hlow⟩ := h
  have hhigh := d.magnitude_lt
  rw [coefficientLimit, twoPow_eq] at hhigh
  rw [twoPow_eq, twoPow_eq] at hlow
  rw [ofDecimal_of_scale hscale]
  generalize d.magnitude = n at hlow hhigh
  have hexponent : exponentFor n 1 = 43 := by
    refine exponentFor_eq Nat.one_pos (by decide) ?_ ?_
    · have hle : ((2 ^ 95 : ℕ) : ℚ) ≤ n := Nat.cast_le.mpr (by omega)
      norm_num at hle ⊢
      exact hle
    · have hlt : (n : ℚ) < (2 ^ 96 : ℕ) := Nat.cast_lt.mpr hhigh
      norm_num at hlt ⊢
      exact hlt
  -- the significand carries over into the next power of two
  have hround : roundHalfEven (n * twoTo (-43)) (1 * twoTo 43) = twoPow 53 := by
    have hone : twoTo (-43) = 1 := by decide
    have hbit : twoTo 43 = 2 ^ 43 := by decide
    rw [hone, hbit, Nat.mul_one, Nat.one_mul, twoPow_eq]
    unfold roundHalfEven
    simp only
    split
    · omega
    · split <;> omega
  rw [ofNat, ofRatio]
  simp only [hexponent, hround]
  exact if_pos trivial

namespace Json

/-- A decimal has a minus in its text unless it is a zero without places. -/
def hasMinus (d : Decimal) : Bool := d.negative && (d.scale != 0 || !d.isZero)

theorem ofDecimal_eq (d : Decimal) :
    Json.ofDecimal d =
      .number (String.ofList (((Binary64.ofDecimal d).shortest .even).numeral (hasMinus d)).toChars) := by
  rw [toChars_numeral]
  unfold Json.ofDecimal hasMinus
  cases d.negative && (d.scale != 0 || !d.isZero) <;> rfl

theorem isPlain_ofDecimal (d : Decimal) : (Json.ofDecimal d).IsPlain := by
  rw [ofDecimal_eq]
  exact .number (isWritten_numeral _ _)

theorem decimal?_of_double {text : String} {negative : Bool} {x : Binary64}
    (h : numberValue? text = some (.double negative x)) :
    decimal? (.number text) = (Decimal.ofChars (doubleChars negative x)).toOption := by
  delta decimal?
  generalize numberValue? = value? at h
  simp only [h]

theorem decimal?_of_none {text : String} (h : numberValue? text = none) : decimal? (.number text) = none := by
  delta decimal?
  generalize numberValue? = value? at h
  simp only [h]

/-- The text of a float has a point or an exponent, so it is read as a double. -/
theorem decimal?_numeral {negative : Bool} {d : Digits} (h : (d.numeral negative).IsWritten) :
    decimal? (.number (String.ofList (d.numeral negative).toChars)) =
      (d.numeral negative).double?.bind fun x => (Decimal.ofChars (doubleChars negative x)).toOption := by
  have hnegative : (d.numeral negative).negative = negative := by
    unfold Digits.numeral
    split_ifs <;> rfl
  have hpoint : ((d.numeral negative).exponent.isNone && (d.numeral negative).fraction.isEmpty) = false := by
    unfold Digits.numeral
    split_ifs with hplain hexponent
    · rfl
    · have hlength := length_fractionPart (digits d.value) (-d.exponent).toNat
      have hne : fractionPart (digits d.value) (-d.exponent).toNat ≠ [] :=
        List.ne_nil_of_length_pos (by rw [hlength]; omega)
      exact List.isEmpty_eq_false_iff.mpr hne
    · rfl
  have hread : numberValue? (String.ofList (d.numeral negative).toChars) =
      (d.numeral negative).double?.map (.double negative) := by
    unfold numberValue?
    rw [String.toList_ofList, Numeral.ofChars_toChars h]
    simp only [hpoint, hnegative, Bool.false_and, Bool.false_eq_true, if_false]
  cases hdouble : (d.numeral negative).double? with
  | none =>
    rw [hdouble, Option.map_none] at hread
    exact decimal?_of_none hread
  | some x =>
    rw [hdouble, Option.map_some] at hread
    exact decimal?_of_double hread

/-- The digits of a double below `2 ^ 96` are below the limit, except those of the largest such double. -/
theorem worth_shortest_le_readLimit {halfway : Halfway} {x : Binary64} (h : IsBelow 43 x)
    (hne : x ≠ ⟨twoPow 53 - 1, 43⟩) : (x.shortest halfway).worth ≤ readLimit := by
  refine worth_shortest_le h.significand ?_ (by unfold readLimit; norm_num)
  unfold readLimit
  rcases lt_or_eq_of_le h.exponent with hlt | heq
  · have hsignificand : (x.significand + 1 : ℚ) ≤ 2 ^ 53 := by exact_mod_cast h.significand
    calc (x.significand + 1 / 2 : ℚ) * 2 ^ x.exponent ≤ (2 ^ 53 - 1 / 2) * 2 ^ (42 : ℤ) := by
          gcongr
          · linarith
          · norm_num
          · omega
      _ ≤ (2 ^ 53 - 3 / 2) * 2 ^ 43 := by norm_num
  · have hsignificand : (x.significand + 2 : ℚ) ≤ 2 ^ 53 := by
      have hne : x.significand ≠ 2 ^ 53 - 1 := by
        intro hlast
        obtain ⟨significand, exponent⟩ := x
        simp only at hlast heq
        rw [hlast, heq, twoPow_eq] at hne
        exact hne rfl
      have hle : x.significand + 2 ≤ 2 ^ 53 := by
        have := h.significand
        omega
      exact_mod_cast hle
    rw [heq]
    have hhalf : (x.significand + 1 / 2 : ℚ) ≤ 2 ^ 53 - 3 / 2 := by linarith
    exact_mod_cast mul_le_mul_of_nonneg_right hhalf (by positivity)

/-- Prices are read back, except those whose double is `2 ^ 96`. -/
theorem decimal?_ofDecimal_isSome_iff (d : Decimal) :
    (decimal? (Json.ofDecimal d)).isSome = true ↔ ¬d.RoundsToLimit := by
  rw [ofDecimal_eq]
  constructor
  · intro hsome hlimit
    rw [ofDecimal_of_roundsToLimit hlimit] at hsome
    have hnone : ∀ negative, decimal? (.number (String.ofList
        (((⟨twoPow 52, 44⟩ : Binary64).shortest .even).numeral negative).toChars)) = none := by
      decide +kernel
    rw [hnone] at hsome
    exact absurd hsome (by decide)
  · intro hlimit
    by_cases hlargest : Binary64.ofDecimal d = ⟨twoPow 53 - 1, 43⟩
    · -- the bounds on rounding do not reach up to this last double, so its text is read digit by digit
      rw [hlargest]
      have hread : ∀ negative, (decimal? (.number (String.ofList
          (((⟨twoPow 53 - 1, 43⟩ : Binary64).shortest .even).numeral negative).toChars))).isSome = true := by
        decide +kernel
      exact hread _
    · obtain ⟨x, hx, hbelow⟩ := double?_numeral (isWritten_numeral (hasMinus d) _) (value_shortest .even _)
        (worth_shortest_le_readLimit (isBelow_ofDecimal hlimit) hlargest)
      obtain ⟨d', hd'⟩ := exists_ofChars_doubleChars hbelow (hasMinus d)
      rw [decimal?_numeral (isWritten_numeral _ _), hx, Option.bind_some, hd']
      rfl

end Json

end CostJournal
