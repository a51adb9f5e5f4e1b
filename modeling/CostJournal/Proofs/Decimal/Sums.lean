import CostJournal.Proofs.Decimal.Nearest
import CostJournal.Proofs.Decimal.Units
import Mathlib.Algebra.BigOperators.Group.List.Basic

/-!
# Sums of positive decimals

Decimals are added one after another, and what a sum does with its places depends on the order: it drops a place that
has no room. `IsSumOf` describes the result without an order, by its exact value and by which place has room, and
determines it to the last place (`IsSumOf.eq`). Additions from the left come to it if none of them rounds
(`isSumOf_of_addsUp`), and if none of them drops a place either, none rounds in another order
(`AddsUp.exact_of_perm`).
-/

namespace CostJournal.Decimal
variable {a b c d d' acc total : Decimal} {cs cs' done : List Decimal} {P : Decimal → Decimal → Decimal → Prop}

theorem value_eq_units_div (d : Decimal) : d.value = d.units / tenPow maxScale := by
  rw [value, div_eq_div_iff (tenPow_cast_pos _).ne' (tenPow_cast_pos _).ne']
  exact_mod_cast d.units_mul_tenPow_scale.symm

/-- The units of the last place, counted from a place behind the decimal's own. -/
theorem units_of_scale_le {scale : Nat} (h : d.scale ≤ scale) (hs : scale ≤ maxScale) :
    d.units = d.coefficient * tenPow (scale - d.scale) * tenPow (maxScale - scale) := by
  have hsplit : maxScale - d.scale = scale - d.scale + (maxScale - scale) := by omega
  rw [units, hsplit, tenPow_add, Nat.cast_mul, mul_assoc]

theorem zero_lt_iff_units : zero < d ↔ 0 < d.units := by
  rw [zero_lt_iff, value_eq_units_div, div_pos_iff_of_pos_right (tenPow_cast_pos _), Int.cast_pos]

theorem sum_units_nonneg (h : ∀ c ∈ cs, zero < c) : 0 ≤ (cs.map units).sum :=
  List.sum_nonneg (by simpa using fun c hc => (zero_lt_iff_units.mp (h c hc)).le)

theorem isZero_iff_units : d.isZero = true ↔ d.units = 0 := by
  rw [isZero_iff, value_eq_units_div, div_eq_zero_iff, or_iff_left (tenPow_cast_pos _).ne', Int.cast_eq_zero]

theorem coefficient_of_not_negative (h : d.negative = false) : d.coefficient = d.magnitude := by
  rw [coefficient, h]
  rfl

theorem magnitude_le_magnitude (ha : a.negative = false) (hb : b.negative = false) (hscale : a.scale ≤ b.scale)
    (h : a.units ≤ b.units) : a.magnitude ≤ b.magnitude := by
  have hpos : 0 < tenPow (maxScale - a.scale) := tenPow_pos _
  have hplaces : tenPow (maxScale - b.scale) ≤ tenPow (maxScale - a.scale) :=
    tenPow_le_tenPow (Nat.sub_le_sub_left hscale _)
  rw [units, units, coefficient_of_not_negative ha, coefficient_of_not_negative hb] at h
  have h : a.magnitude * tenPow (maxScale - a.scale) ≤ b.magnitude * tenPow (maxScale - b.scale) := by
    exact_mod_cast h
  exact Nat.le_of_mul_le_mul_right (h.trans (Nat.mul_le_mul_left _ hplaces)) hpos

theorem coefficientLimit_le_of_outOfRange {n : Nat} (h : OutOfRange n) : coefficientLimit ≤ n := by
  rw [OutOfRange, Nat.abs_cast] at h
  have hlt : (coefficientLimit : ℚ) < (n + 1 : Nat) := by
    push_cast
    linarith
  exact Nat.le_of_lt_succ (Nat.cast_lt.mp hlt)

/-- `d` is the sum, and nothing of it is rounded off. -/
def IsExactSum (a b d : Decimal) : Prop := d.units = a.units + b.units

/-- `d` is the sum, with all places of both summands. -/
def IsFullSum (a b d : Decimal) : Prop := IsExactSum a b d ∧ a.scale ≤ d.scale ∧ b.scale ≤ d.scale

instance (a b d : Decimal) : Decidable (IsExactSum a b d) := inferInstanceAs (Decidable (d.units = a.units + b.units))

instance (a b d : Decimal) : Decidable (IsFullSum a b d) := inferInstanceAs (Decidable (_ ∧ _))

theorem isExactSum_iff : IsExactSum a b d ↔ d.value = a.value + b.value := by
  have hmax := (tenPow_cast_pos maxScale).ne'
  rw [IsExactSum, value_eq_units_div, value_eq_units_div, value_eq_units_div, ← add_div, div_left_inj' hmax]
  exact_mod_cast Iff.rfl

/-- A sum is one of its summands if the other is zero, and else the decimal nearest to it with the places of both. -/
theorem add?_eq_some (h : add? a b = some d) : (a.isZero = true ∧ d = b) ∨ (b.isZero = true ∧ d = a) ∨
    IsNearest (a.coefficient * tenPow b.scale + b.coefficient * tenPow a.scale) (tenPow (a.scale + b.scale))
      (Nat.max a.scale b.scale) d := by
  unfold add? at h
  split at h
  next ha => exact .inl ⟨ha, (Option.some.inj h).symm⟩
  next =>
    split at h
    next hb => exact .inr (.inl ⟨hb, (Option.some.inj h).symm⟩)
    next => exact .inr (.inr (isNearest_of_nearest? (tenPow_pos _) h))

theorem add_eq_ok : a.add b = .ok d ↔ add? a b = some d := by
  rw [add]
  cases add? a b <;> simp

/-- Where some decimal is the exact sum, nothing is rounded off. -/
theorem add_exact {e : Decimal} (he : IsExactSum a b e) : ∃ d, a.add b = .ok d ∧ IsExactSum a b d := by
  have hvalue := isExactSum_iff.mp he
  match hd : add? a b with
  | none => exact absurd (hvalue ▸ add?_eq_none.mp hd) e.not_outOfRange_value
  | some d =>
    refine ⟨d, add_eq_ok.mpr hd, ?_⟩
    rcases add?_eq_some hd with ⟨ha, rfl⟩ | ⟨hb, rfl⟩ | hnearest
    · rw [IsExactSum, isZero_iff_units.mp ha, zero_add]
    · rw [IsExactSum, isZero_iff_units.mp hb, add_zero]
    · have hplaces := congrArg₂ (· + ·) (value_mul_tenPow_of_le (Nat.le_max_left a.scale b.scale))
        (value_mul_tenPow_of_le (Nat.le_max_right a.scale b.scale))
      simp only [← add_mul, ← Int.cast_add] at hplaces
      rw [value_add_value] at hvalue hplaces
      rw [isExactSum_iff, value_add_value]
      exact hnearest.value_eq (tenPow_pos _) hplaces hvalue

/-- Adding the summands one after another, each sum is to what it is made of as `P` says. -/
def AddsUp (P : Decimal → Decimal → Decimal → Prop) : Decimal → List Decimal → Prop
  | _, [] => True
  | acc, c :: cs => ∃ d, acc.add c = .ok d ∧ P acc c d ∧ AddsUp P d cs

instance instDecidableAddsUp [∀ a b d, Decidable (P a b d)] :
    (acc : Decimal) → (cs : List Decimal) → Decidable (AddsUp P acc cs)
  | _, [] => isTrue trivial
  | acc, c :: cs =>
    match hd : acc.add c with
    | .error _ => isFalse fun ⟨_, hd', _⟩ => nomatch hd.symm.trans hd'
    | .ok d =>
      have : Decidable (AddsUp P d cs) := instDecidableAddsUp d cs
      decidable_of_iff (P acc c d ∧ AddsUp P d cs)
        ⟨fun h => ⟨d, hd, h⟩, fun ⟨_, hd', h⟩ => Except.ok.inj (hd.symm.trans hd') ▸ h⟩

theorem AddsUp.exists_add (h : AddsUp P acc (cs ++ c :: cs')) (hsum : cs.foldlM Decimal.add acc = .ok a) :
    ∃ d, a.add c = .ok d := by
  induction cs generalizing acc with
  | nil =>
    cases hsum
    obtain ⟨d, hd, -⟩ := h
    exact ⟨d, hd⟩
  | cons b cs ih =>
    obtain ⟨d, hd, -, h⟩ := h
    rw [List.foldlM_cons, hd] at hsum
    exact ih h hsum

/-- What positive summands add up to: their exact sum, with one more place only if one of them has it and it fits. -/
structure IsSumOf (cs : List Decimal) (d : Decimal) : Prop where
  positive : ∀ c ∈ cs, zero < c
  units_eq : d.units = (cs.map units).sum
  negative_eq : d.negative = false
  scale_le : d.scale = 0 ∨ ∃ c ∈ cs, d.scale ≤ c.scale
  noRoom : ∀ c ∈ cs, d.scale < c.scale → coefficientLimit ≤ d.magnitude * 10

theorem isSumOf_nil : IsSumOf [] zero where
  positive := nofun
  units_eq := rfl
  negative_eq := rfl
  scale_le := .inl rfl
  noRoom := nofun

namespace IsSumOf

theorem perm (h : IsSumOf cs d) (hperm : cs.Perm cs') : IsSumOf cs' d where
  positive c hc := h.positive c (hperm.mem_iff.mpr hc)
  units_eq := h.units_eq.trans (hperm.map units).sum_eq
  negative_eq := h.negative_eq
  scale_le := h.scale_le.imp_right fun ⟨c, hc, hle⟩ => ⟨c, hperm.mem_iff.mp hc, hle⟩
  noRoom c hc := h.noRoom c (hperm.mem_iff.mpr hc)

theorem units_nonneg (h : IsSumOf cs d) : 0 ≤ d.units := by
  rw [h.units_eq]
  exact sum_units_nonneg h.positive

theorem magnitude_eq (h : IsSumOf cs d) (h' : IsSumOf cs d') (hle : d.scale ≤ d'.scale) :
    d'.magnitude = d.magnitude * tenPow (d'.scale - d.scale) := by
  have hunits : d'.units = d.units := h'.units_eq.trans h.units_eq.symm
  rw [units_of_scale_le hle d'.scale_le, units, coefficient_of_not_negative h.negative_eq,
    coefficient_of_not_negative h'.negative_eq] at hunits
  exact_mod_cast mul_right_cancel₀ (by exact_mod_cast tenPow_ne_zero _) hunits

theorem scale_le_scale (h : IsSumOf cs d) (h' : IsSumOf cs d') : d'.scale ≤ d.scale := by
  by_contra hlt
  have hlt := Nat.lt_of_not_le hlt
  obtain ⟨c, hc, hle⟩ := h'.scale_le.resolve_left (Nat.ne_of_gt (Nat.lt_of_le_of_lt (Nat.zero_le _) hlt))
  -- the sum with fewer places has no room for the next one, and the other sum has it
  have hroom := h.noRoom c hc (Nat.lt_of_lt_of_le hlt hle)
  have hplace : tenPow 1 ≤ tenPow (d'.scale - d.scale) := tenPow_le_tenPow (by omega)
  have hmagnitude := d'.magnitude_lt
  rw [h.magnitude_eq h' hlt.le] at hmagnitude
  exact absurd hroom (Nat.not_le.mpr (Nat.lt_of_le_of_lt (Nat.mul_le_mul_left _ hplace) hmagnitude))

theorem eq (h : IsSumOf cs d) (h' : IsSumOf cs d') : d = d' := by
  have hscale := Nat.le_antisymm (h'.scale_le_scale h) (h.scale_le_scale h')
  have hmagnitude := h.magnitude_eq h' hscale.le
  rw [hscale, Nat.sub_self, tenPow_zero, Nat.mul_one] at hmagnitude
  exact Decimal.ext (h.negative_eq.trans h'.negative_eq.symm) hmagnitude.symm hscale

theorem singleton (hc : zero < c) : IsSumOf [c] c := by
  have hcoefficient : 0 < c.coefficient := by
    have hpos := zero_lt_iff.mp hc
    rwa [value, div_pos_iff_of_pos_right (tenPow_cast_pos _), Int.cast_pos] at hpos
  refine ⟨by simpa using hc, by simp, ?_, .inr ⟨c, List.mem_singleton_self c, Nat.le_refl _⟩, ?_⟩
  · by_contra hnegative
    rw [coefficient, if_pos (Bool.eq_true_of_not_eq_false hnegative)] at hcoefficient
    omega
  · rintro c' hc' hlt
    rw [List.mem_singleton.mp hc'] at hlt
    exact absurd hlt (Nat.lt_irrefl _)

theorem eq_nil_of_isZero (h : IsSumOf cs d) (hzero : d.isZero = true) : cs = [] := by
  cases cs with
  | nil => rfl
  | cons c cs =>
    have hsum := h.units_eq
    rw [isZero_iff_units.mp hzero, List.map_cons, List.sum_cons] at hsum
    have hc := zero_lt_iff_units.mp (h.positive c List.mem_cons_self)
    have hcs := sum_units_nonneg fun c' hc' => h.positive c' (List.mem_cons_of_mem _ hc')
    omega

theorem add (h : IsSumOf cs acc) (hc : zero < c) (hd : acc.add c = .ok d) (hexact : IsExactSum acc c d) :
    IsSumOf (c :: cs) d := by
  rcases add?_eq_some (add_eq_ok.mp hd) with ⟨hzero, rfl⟩ | ⟨hzero, -⟩ | hnearest
  · rw [h.eq_nil_of_isZero hzero]
    exact singleton hc
  · exact absurd (isZero_iff_units.mp hzero) (zero_lt_iff_units.mp hc).ne'
  · have hpos : 0 < d.units := by
      rw [hexact]
      exact add_pos_of_nonneg_of_pos h.units_nonneg (zero_lt_iff_units.mp hc)
    have hcoefficient : 0 < d.coefficient := pos_of_mul_pos_left hpos (Int.natCast_nonneg _)
    have hnegative : d.negative = false := by
      rw [hnearest.negative_eq]
      exact decide_eq_false (Int.not_lt.mpr hcoefficient.le)
    refine ⟨List.forall_mem_cons.mpr ⟨hc, h.positive⟩, ?_, hnegative, ?_, ?_⟩
    · rw [hexact, h.units_eq, List.map_cons, List.sum_cons, add_comm]
    · rcases le_max_iff.mp hnearest.scale_le with hle | hle
      · rcases h.scale_le with hzero | ⟨c', hc', hle'⟩
        · exact .inl (Nat.le_zero.mp (hzero ▸ hle))
        · exact .inr ⟨c', List.mem_cons_of_mem _ hc', hle.trans hle'⟩
      · exact .inr ⟨c, List.mem_cons_self, hle⟩
    · intro c' hc' hlt
      rcases Nat.lt_or_eq_of_le hnearest.scale_le with hmax | hmax
      · -- rounding did not keep all places, as the next one had no room
        have hout := hnearest.noRoom hmax
        rw [← value_add_value, ← isExactSum_iff.mp hexact, value_mul_tenPow_of_le (Nat.le_add_right _ 1),
          Nat.add_sub_cancel_left, coefficient_of_not_negative hnegative] at hout
        exact coefficientLimit_le_of_outOfRange (by exact_mod_cast hout)
      · -- the sum has all places that there were, so one that has more was dropped before
        obtain ⟨hacc, hle⟩ := Nat.max_le.mp hmax.ge
        have hmem := (List.mem_cons.mp hc').resolve_left fun heq => Nat.not_lt.mpr hle (heq ▸ hlt)
        have hroom := h.noRoom c' hmem (Nat.lt_of_le_of_lt hacc hlt)
        have hunits : acc.units ≤ d.units := by
          rw [hexact]
          exact le_add_of_nonneg_right (zero_lt_iff_units.mp hc).le
        have hmagnitude := magnitude_le_magnitude h.negative_eq hnegative hacc hunits
        exact hroom.trans (Nat.mul_le_mul_right _ hmagnitude)

end IsSumOf

theorem isSumOf_of_addsUp (h : IsSumOf done acc) (hpos : ∀ c ∈ cs, zero < c) (hadds : AddsUp IsExactSum acc cs) :
    ∃ d, cs.foldlM Decimal.add acc = .ok d ∧ IsSumOf (cs ++ done) d := by
  induction cs generalizing acc done with
  | nil => exact ⟨acc, rfl, h⟩
  | cons c cs ih =>
    obtain ⟨hc, hcs⟩ := List.forall_mem_cons.mp hpos
    obtain ⟨a, ha, hexact, hadds⟩ := hadds
    obtain ⟨d, hd, hsum⟩ := ih (h.add hc ha hexact) hcs hadds
    refine ⟨d, ?_, hsum.perm List.perm_middle⟩
    rw [List.foldlM_cons, ha]
    exact hd

/-- Additions that keep all places come to a total that has them all. -/
theorem AddsUp.exists_total (h : AddsUp IsFullSum acc cs) :
    ∃ total : Decimal, total.units = acc.units + (cs.map units).sum ∧ acc.scale ≤ total.scale ∧
      ∀ c ∈ cs, c.scale ≤ total.scale := by
  induction cs generalizing acc with
  | nil => exact ⟨acc, (add_zero _).symm, Nat.le_refl _, nofun⟩
  | cons c cs ih =>
    obtain ⟨d, -, ⟨hexact, hacc, hc⟩, h⟩ := h
    obtain ⟨total, hunits, hle, hcs⟩ := ih h
    refine ⟨total, ?_, hacc.trans hle, List.forall_mem_cons.mpr ⟨hc.trans hle, hcs⟩⟩
    rw [hunits, hexact, List.map_cons, List.sum_cons, add_assoc]

/-- What is positive and comes to a total with all its places can be added exactly: every sum on the way is a whole
number of units of the total's last place, and at most the total. -/
theorem addsUp_of_total {k : Int} (hpos : ∀ c ∈ cs, zero < c) (hscale : ∀ c ∈ cs, c.scale ≤ total.scale) (hk : 0 ≤ k)
    (hacc : acc.units = k * tenPow (maxScale - total.scale)) (htotal : total.units = acc.units + (cs.map units).sum) :
    AddsUp IsExactSum acc cs := by
  induction cs generalizing acc k with
  | nil => trivial
  | cons c cs ih =>
    obtain ⟨hc, hcs⟩ := List.forall_mem_cons.mp hpos
    obtain ⟨hcscale, hscale⟩ := List.forall_mem_cons.mp hscale
    rw [List.map_cons, List.sum_cons, ← add_assoc] at htotal
    have hplace : (0 : Int) < tenPow (maxScale - total.scale) := Int.natCast_pos.mpr (tenPow_pos _)
    have hunits := units_of_scale_le hcscale total.scale_le
    have hsum := congrArg₂ (· + ·) hacc hunits
    simp only [← add_mul] at hsum
    have hcpos : 0 < c.coefficient * tenPow (total.scale - c.scale) :=
      pos_of_mul_pos_left (hunits ▸ zero_lt_iff_units.mp hc) hplace.le
    have hnonneg : 0 ≤ k + c.coefficient * tenPow (total.scale - c.scale) := add_nonneg hk hcpos.le
    have hle : k + c.coefficient * tenPow (total.scale - c.scale) ≤ total.coefficient := by
      refine le_of_mul_le_mul_right ?_ hplace
      rw [← hsum, ← units, htotal]
      exact le_add_of_nonneg_right (sum_units_nonneg hcs)
    generalize k + c.coefficient * tenPow (total.scale - c.scale) = k' at hsum hnonneg hle
    have hfits : k'.natAbs < coefficientLimit := by
      have := total.natAbs_coefficient_lt
      omega
    have he : IsExactSum acc c (ofCoefficient k' total.scale hfits total.scale_le) := by
      rw [IsExactSum, hsum, units, coefficient_ofCoefficient]
      rfl
    obtain ⟨d, hd, hexact⟩ := add_exact he
    exact ⟨d, hd, hexact, ih hcs hscale hnonneg (hexact.trans hsum) (by rw [htotal, hexact])⟩

/-- Where no place is dropped in one order, nothing is rounded off in another. -/
theorem AddsUp.exact_of_perm (h : AddsUp IsFullSum zero cs) (hpos : ∀ c ∈ cs, zero < c) (hperm : cs.Perm cs') :
    AddsUp IsExactSum zero cs' := by
  obtain ⟨total, hunits, -, hscale⟩ := h.exists_total
  refine addsUp_of_total (k := 0) (fun c hc => hpos c (hperm.mem_iff.mpr hc))
    (fun c hc => hscale c (hperm.mem_iff.mpr hc)) (Int.le_refl 0) (zero_mul _).symm ?_
  rw [hunits, (hperm.map units).sum_eq]

end CostJournal.Decimal
