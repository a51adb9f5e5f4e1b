import CostJournal.Decimal.Text

/-!
# Binary floating point

Finite numbers of 53 significant bits, as exact pairs of naturals and powers of two, with correctly
rounded arithmetic (`ofRatio`) and the shortest decimal digits that read back (`shortest`).
-/

namespace CostJournal

/-- The number `significand * 2 ^ exponent`, without a sign. -/
structure Binary64 where
  significand : Nat
  exponent : Int
deriving DecidableEq

namespace Binary64

/-- The exponent of the smallest numbers. -/
def minExponent : Int := -1074

/-- The power of two with a natural exponent, and one for a negative exponent. -/
def twoTo (e : Int) : Nat := twoPow e.toNat

def numerator (x : Binary64) : Nat := x.significand * twoTo x.exponent

def denominator (x : Binary64) : Nat := twoTo (-x.exponent)

/-- The exponent that leaves 53 bits of `num / den`, or the smallest one. -/
def exponentFor (num den : Nat) : Int :=
  let e : Int := (num.log2 : Int) - den.log2 - 53
  let e := if twoPow 53 * den * twoTo e ≤ num * twoTo (-e) then e + 1 else e
  if e < minExponent then minExponent else e

/-- The number nearest to `num / den`, a half to the even significand. -/
def ofRatio (num den : Nat) : Binary64 :=
  let e := exponentFor num den
  let m := roundHalfEven (num * twoTo (-e)) (den * twoTo e)
  if m = twoPow 53 then ⟨twoPow 52, e + 1⟩ else ⟨m, e⟩

def ofNat (n : Nat) : Binary64 := ofRatio n 1

/-- Below the least power of two that has no finite number. -/
def isFinite (x : Binary64) : Bool := x.exponent ≤ 971

def isZero (x : Binary64) : Bool := x.significand == 0

def add (x y : Binary64) : Binary64 :=
  ofRatio (x.numerator * y.denominator + y.numerator * x.denominator) (x.denominator * y.denominator)

def mul (x y : Binary64) : Binary64 :=
  ofRatio (x.numerator * y.numerator) (x.denominator * y.denominator)

def div (x y : Binary64) : Binary64 :=
  ofRatio (x.numerator * y.denominator) (x.denominator * y.numerator)

/-- The nearest integer, a half upwards. -/
def round (x : Binary64) : Nat := roundHalfUp x.numerator x.denominator

/-- The nearest number to the magnitude of a decimal. The whole part and the fraction are rounded
one by one, then their sum to the places of the decimal. -/
def ofDecimal (d : Decimal) : Binary64 :=
  let n := d.magnitude
  let p := tenPow d.scale
  let whole := ofNat (n / p)
  let fraction := div (ofNat (n % p)) (ofNat p)
  if d.scale = 0 || fraction.isZero then whole
  else div (ofNat (mul (add whole fraction) (ofNat p)).round) (ofNat p)

/-- The digits of `value * 10 ^ exponent`. -/
structure Digits where
  value : Nat
  exponent : Int

/-- The place of the first digit of `num / den`: the largest `p` with `10 ^ p ≤ num / den`. -/
def firstPlace (num den : Nat) : Int :=
  if den ≤ num then (digits (num / den)).length - 1
  else - (digits ((den + num - 1) / num - 1)).length

/-- Which of two neighbours of `count` digits is taken when `x` is halfway between them. -/
inductive Halfway where
  /-- The one whose last digit is even. -/
  | even
  /-- The larger one. -/
  | up
deriving DecidableEq

/-- The decimal of `count` digits that is nearest to `x` among those that round to `x`. -/
def digitsOf? (halfway : Halfway) (x : Binary64) (place : Int) (count : Nat) : Option Digits :=
  let e : Int := x.exponent - 2
  let grid : Int := place - (count : Int) + 1
  -- `scale` turns quarters of a last bit into the unit `unit`, in which a step of the grid is `step`
  let step := tenPow grid.toNat * twoTo (-e)
  let scale := tenPow (-grid).toNat * twoTo e
  let value := 4 * x.significand * scale
  let below := if x.significand = twoPow 52 && x.exponent != minExponent then 1 else 2
  let low := value - below * scale
  let high := value + 2 * scale
  let inside (n : Nat) : Bool :=
    let v := n * step
    if x.significand % 2 = 0 then low ≤ v && v ≤ high else low < v && v < high
  let q := value / step
  let r := value % step
  let down := inside q
  let up := inside (q + 1)
  let preferDown := 2 * r < step || (2 * r == step && halfway == .even && q % 2 == 0)
  if down && (preferDown || !up) then some ⟨q, grid⟩
  else if up then some ⟨q + 1, grid⟩
  else none

/-- Without zeros at the end; there are at most `fuel` of them. -/
def Digits.strip : (fuel : Nat) → Digits → Digits
  | 0, d => d
  | fuel + 1, d => if d.value % 10 = 0 then strip fuel ⟨d.value / 10, d.exponent + 1⟩ else d

/-- The fewest digits that read back as `x`, and of those the nearest; seventeen always do. -/
def shortest (halfway : Halfway) (x : Binary64) : Digits :=
  if x.isZero then ⟨0, 0⟩
  else
    let place := firstPlace x.numerator x.denominator
    match (List.range 17).findSome? fun k => digitsOf? halfway x place (k + 1) with
    | some d => d.strip 18
    | none => ⟨x.numerator, 0⟩

/-- A natural in decimal digits with `places` of them after a point. -/
def pointed (cs : List Char) (places : Nat) : List Char :=
  let padded := List.replicate (places + 1 - cs.length) '0' ++ cs
  padded.take (padded.length - places) ++ '.' :: padded.drop (padded.length - places)

/-- Positional notation, with a point only where digits follow it; halfway, the larger digits. -/
def toPositional (x : Binary64) : List Char :=
  let d := x.shortest .up
  let cs := digits d.value
  if 0 ≤ d.exponent then cs ++ List.replicate d.exponent.toNat '0'
  else pointed cs (-d.exponent).toNat

/-- Positional notation with a digit after the point from `10 ^ -5` below `10 ^ 16`, and otherwise
one digit before the point and a signed exponent; halfway, the even digits. -/
def toFloatText (x : Binary64) : List Char :=
  let d := x.shortest .even
  let cs := digits d.value
  let point : Int := cs.length + d.exponent
  if -5 < point && point ≤ 16 then
    if 0 ≤ d.exponent then cs ++ List.replicate d.exponent.toNat '0' ++ ['.', '0']
    else pointed cs (-d.exponent).toNat
  else
    let e := point - 1
    let mantissa := if cs.length = 1 then cs else cs.take 1 ++ '.' :: cs.drop 1
    mantissa ++ 'e' :: (if e < 0 then '-' else '+') :: digits e.natAbs

end Binary64

end CostJournal
