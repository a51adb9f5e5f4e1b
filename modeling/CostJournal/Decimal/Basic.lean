import CostJournal.Power

/-!
# Decimals

A decimal is a sign and a magnitude of at most 96 bits over a power of ten of at most 28, so `1.50`
and `1.5` are different decimals of one value, and so are the zeros `0.0` and `-0.0`. Every operation
that may not fit goes through `nearest?`: the exact fraction, rounded half to even at the largest
scale at which it fits.
-/

namespace CostJournal

/-- The quotient of two naturals rounded to the nearest integer, a half to the even neighbour. -/
def roundHalfEven (num den : Nat) : Nat :=
  let q := num / den
  let r := num % den
  if 2 * r < den then q
  else if den < 2 * r then q + 1
  else q + q % 2

/-- The quotient of two naturals rounded to the nearest integer, a half upwards. -/
def roundHalfUp (num den : Nat) : Nat :=
  (2 * num + den) / (2 * den)

theorem roundHalfEven_one (n : Nat) : roundHalfEven n 1 = n := by
  simp [roundHalfEven, Nat.mod_one]

theorem roundHalfEven_le (num den : Nat) : roundHalfEven num den ≤ num / den + 1 := by
  simp only [roundHalfEven]
  split
  · omega
  · split <;> omega

theorem roundHalfEven_le_self (num den : Nat) (h : den ≠ 0) : roundHalfEven num den ≤ num := by
  by_cases h1 : den = 1
  · subst h1; exact Nat.le_of_eq (roundHalfEven_one num)
  · rcases Nat.eq_zero_or_pos num with h0 | h0
    · subst h0; simp [roundHalfEven]
    · have hd : num / den < num := Nat.div_lt_self h0 (by omega)
      exact Nat.le_trans (roundHalfEven_le num den) hd

theorem roundHalfUp_le_self (num den : Nat) (h : den ≠ 0) : roundHalfUp num den ≤ num := by
  rcases Nat.eq_zero_or_pos num with h0 | h0
  · subst h0; exact Nat.le_of_eq (Nat.div_eq_of_lt (by omega))
  · by_cases h1 : den = 1
    · subst h1; simp only [roundHalfUp]; omega
    · simp only [roundHalfUp]
      apply Nat.le_of_lt_succ
      rw [Nat.div_lt_iff_lt_mul (by omega)]
      have hm : num * 4 ≤ num * (2 * den) := Nat.mul_le_mul_left num (by omega)
      have hs : num.succ * (2 * den) = num * (2 * den) + 2 * den := Nat.succ_mul _ _
      omega

/-- `roundHalfEven` carried to the integers, the same on both sides of zero. -/
def roundInt (num : Int) (den : Nat) : Int :=
  num.sign * roundHalfEven num.natAbs den

theorem natAbs_sign_mul_le (z : Int) (n : Nat) : (z.sign * (n : Int)).natAbs ≤ n := by
  rw [Int.natAbs_mul, Int.natAbs_natCast]
  rcases Int.lt_trichotomy z 0 with h | h | h
  · simp [Int.sign_eq_neg_one_of_neg h]
  · subst h; simp
  · simp [Int.sign_eq_one_of_pos h]

theorem natAbs_roundInt_le (num : Int) (den : Nat) (h : den ≠ 0) :
    (roundInt num den).natAbs ≤ num.natAbs :=
  Nat.le_trans (natAbs_sign_mul_le _ _) (roundHalfEven_le_self _ _ h)

/-- The least natural that no magnitude reaches. -/
def coefficientLimit : Nat := twoPow 96

theorem coefficientLimit_pos : 0 < coefficientLimit := twoPow_pos 96

/-- The largest number of places after the point. -/
def maxScale : Nat := 28

/-- The value `magnitude / 10 ^ scale`, below zero when `negative`. A zero may be `negative` too. -/
@[ext]
structure Decimal where
  negative : Bool
  magnitude : Nat
  scale : Nat
  magnitude_lt : magnitude < coefficientLimit := by decide
  scale_le : scale ≤ maxScale := by decide
deriving DecidableEq

/-- The operation whose result has no decimal near it; it ends the whole run. -/
inductive Overflow where
  | addition
  | subtraction
  | multiplication
  | division
deriving DecidableEq

def Overflow.message : Overflow → String
  | addition => "Addition overflowed"
  | subtraction => "Subtraction overflowed"
  | multiplication => "Multiplication overflowed"
  | division => "Division overflowed"

/-- A computation that may run out of the range of decimals. -/
abbrev Checked := Except Overflow

namespace Decimal

def zero : Decimal := { negative := false, magnitude := 0, scale := 0 }

def one : Decimal := { negative := false, magnitude := 1, scale := 0 }

def hundred : Decimal := { negative := false, magnitude := 100, scale := 0 }

instance : Inhabited Decimal := ⟨zero⟩

/-- A natural without places. -/
def ofNat (n : Nat) (h : n < coefficientLimit := by decide) : Decimal := ⟨false, n, 0, h, Nat.zero_le _⟩

/-- The decimal of a signed coefficient; its zero is not negative. -/
def ofCoefficient (c : Int) (scale : Nat) (hc : c.natAbs < coefficientLimit) (hs : scale ≤ maxScale) :
    Decimal :=
  ⟨decide (c < 0), c.natAbs, scale, hc, hs⟩

/-- The decimal of a coefficient and a scale that are in range. -/
def ofParts? (coefficient : Int) (scale : Nat) : Option Decimal :=
  if h : coefficient.natAbs < coefficientLimit ∧ scale ≤ maxScale then
    some (ofCoefficient coefficient scale h.1 h.2)
  else none

/-- The magnitude with its sign, so the value is `coefficient / 10 ^ scale`. -/
def coefficient (d : Decimal) : Int := if d.negative then -(d.magnitude : Int) else d.magnitude

def isZero (d : Decimal) : Bool := d.magnitude == 0

/-- The value of `a` is less than that of `b`. -/
def lt (a b : Decimal) : Prop := a.coefficient * tenPow b.scale < b.coefficient * tenPow a.scale

/-- The value of `a` is at most that of `b`. -/
def le (a b : Decimal) : Prop := a.coefficient * tenPow b.scale ≤ b.coefficient * tenPow a.scale

instance : LT Decimal := ⟨lt⟩

instance : LE Decimal := ⟨le⟩

instance (a b : Decimal) : Decidable (a < b) :=
  inferInstanceAs (Decidable (a.coefficient * tenPow b.scale < b.coefficient * tenPow a.scale))

instance (a b : Decimal) : Decidable (a ≤ b) :=
  inferInstanceAs (Decidable (a.coefficient * tenPow b.scale ≤ b.coefficient * tenPow a.scale))

theorem natAbs_coefficient (d : Decimal) : d.coefficient.natAbs = d.magnitude := by
  simp only [coefficient]
  split <;> simp

theorem natAbs_coefficient_lt (d : Decimal) : d.coefficient.natAbs < coefficientLimit := by
  rw [natAbs_coefficient]; exact d.magnitude_lt

/-- Both have the same value, whatever their scales. -/
def sameValue (a b : Decimal) : Bool := a.coefficient * tenPow b.scale == b.coefficient * tenPow a.scale

/-- The larger value; `a` when both are equal. -/
def max (a b : Decimal) : Decimal := if a < b then b else a

/-- The opposite sign, also of a zero. -/
def neg (d : Decimal) : Decimal := { d with negative := !d.negative }

def abs (d : Decimal) : Decimal := { d with negative := false }

/-- A zero gets the sign; every other decimal stays as it is. -/
def withZeroSign (negative : Bool) (d : Decimal) : Decimal := if d.isZero then { d with negative } else d

/-- The fraction `num / den` rounded half to even at `scale`, or at the next smaller scale at which
its coefficient fits. -/
def nearest? (num : Int) (den : Nat) : (scale : Nat) → scale ≤ maxScale → Option Decimal
  | 0, h =>
    let c := roundInt num den
    if hc : c.natAbs < coefficientLimit then some (ofCoefficient c 0 hc h) else none
  | s + 1, h =>
    let c := roundInt (num * tenPow (s + 1)) den
    if hc : c.natAbs < coefficientLimit then some (ofCoefficient c (s + 1) hc h)
    else nearest? num den s (Nat.le_of_succ_le h)

/-- The sum at the larger of the two scales. A zero leaves the other operand as it is. -/
def add? (a b : Decimal) : Option Decimal :=
  if a.isZero then some b
  else if b.isZero then some a
  else
    nearest? (a.coefficient * tenPow b.scale + b.coefficient * tenPow a.scale) (tenPow (a.scale + b.scale))
      (Nat.max a.scale b.scale) (Nat.max_le.mpr ⟨a.scale_le, b.scale_le⟩)

def add (a b : Decimal) : Checked Decimal :=
  match add? a b with
  | some d => .ok d
  | none => .error .addition

/-- The sum with the opposite of `b`, but a zero is taken away as it is. -/
def sub (a b : Decimal) : Checked Decimal :=
  match add? a (if b.isZero then b else b.neg) with
  | some d => .ok d
  | none => .error .subtraction

/-- The magnitude has more than 32 bits. -/
def isWide (d : Decimal) : Bool := twoPow 32 ≤ d.magnitude

/-- The product at the sum of the two scales, or at the largest one. A product by zero is the zero
without places. A product that is rounded to zero keeps its sign when one of the factors is wide. -/
def mul (a b : Decimal) : Checked Decimal :=
  if a.isZero || b.isZero then .ok zero
  else
    match nearest? (a.coefficient * b.coefficient) (tenPow (a.scale + b.scale))
        (Nat.min (a.scale + b.scale) maxScale) (Nat.min_le_right _ _) with
    | some d => .ok (d.withZeroSign ((a.isWide || b.isWide) && a.negative != b.negative))
    | none => .error .multiplication

/-- The quotient with as many digits as fit. No decimal is a quotient by zero. -/
def div (a b : Decimal) : Checked Decimal :=
  if b.isZero then .error .division
  else if a.isZero then .ok zero
  else
    match nearest? (a.coefficient * tenPow b.scale * b.coefficient.sign)
        (b.coefficient.natAbs * tenPow a.scale) maxScale (Nat.le_refl _) with
    | some d => .ok d
    | none => .error .division

/-- The sum of a list, from the left. -/
def sum (ds : List Decimal) : Checked Decimal := ds.foldlM add zero

/-- At most `places` places, rounded half to even. A zero keeps its sign and gets exactly `places`;
what is rounded to zero has no sign. -/
def roundTo (places : Nat) (h : places ≤ maxScale) (d : Decimal) : Decimal :=
  if d.isZero then ⟨d.negative, 0, places, coefficientLimit_pos, h⟩
  else if d.scale ≤ places then d
  else
    ofCoefficient (roundInt d.coefficient (tenPow (d.scale - places))) places
      (Nat.lt_of_le_of_lt (natAbs_roundInt_le _ _ (tenPow_ne_zero _)) d.natAbs_coefficient_lt) h

/-- The coefficient and scale after dropping zeros at the end of the fraction. -/
def dropZeros : Int → Nat → Int × Nat
  | c, 0 => (c, 0)
  | c, s + 1 => if c % 10 = 0 then dropZeros (c / 10) s else (c, s + 1)

theorem dropZeros_bounds (c : Int) (s : Nat) :
    (dropZeros c s).1.natAbs ≤ c.natAbs ∧ (dropZeros c s).2 ≤ s := by
  induction s generalizing c with
  | zero => simp [dropZeros]
  | succ s ih =>
    simp only [dropZeros]
    split
    · have h := ih (c / 10)
      omega
    · simp

/-- The same value without zeros at the end of the fraction, and without a sign of zero. -/
def normalize (d : Decimal) : Decimal :=
  let p := dropZeros d.coefficient d.scale
  ofCoefficient p.1 p.2 (Nat.lt_of_le_of_lt (dropZeros_bounds _ _).1 d.natAbs_coefficient_lt)
    (Nat.le_trans (dropZeros_bounds _ _).2 d.scale_le)

theorem coefficient_neg (d : Decimal) : d.neg.coefficient = -d.coefficient := by
  cases h : d.negative <;> simp [neg, coefficient, h]

end Decimal

end CostJournal
