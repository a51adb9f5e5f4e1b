import CostJournal.Power

/-!
# Decimal digits

Naturals and integers as digits (`digits`, `paddedDigits`, `natText`, `intText`), and digits read
back (`natOfDigits?`).
-/

namespace CostJournal

/-- The value of an ASCII digit. -/
def digit? (c : Char) : Option Nat :=
  if '0' ≤ c ∧ c ≤ '9' then some (c.toNat - '0'.toNat) else none

/-- The character of a digit below ten. -/
def digitChar (n : Nat) : Char := Char.ofNat ('0'.toNat + n)

theorem digit?_digitChar {n : Nat} (h : n < 10) : digit? (digitChar n) = some n := by
  have : ∀ k, k < 10 → digit? (digitChar k) = some k := by decide
  exact this n h

/-- The lowest `places` decimal digits of a natural, leading zeros included. -/
def paddedDigits : (places : Nat) → Nat → List Char
  | 0, _ => []
  | places + 1, n => digitChar (n / tenPow places % 10) :: paddedDigits places n

theorem length_paddedDigits (places n : Nat) : (paddedDigits places n).length = places := by
  induction places with
  | zero => rfl
  | succ places ih => simp [paddedDigits, ih]

/-- The decimal digits of a natural, without leading zeros. -/
def digits (n : Nat) : List Char :=
  if n < 10 then [digitChar n] else digits (n / 10) ++ [digitChar (n % 10)]

/-- The decimal digits of a natural, with leading zeros up to `width`. -/
def digitsFrom (width n : Nat) : List Char :=
  let cs := digits n
  List.replicate (width - cs.length) '0' ++ cs

def natText (n : Nat) : String := String.ofList (digits n)

def intChars (n : Int) : List Char :=
  if n < 0 then '-' :: digits n.natAbs else digits n.natAbs

def intText (n : Int) : String := String.ofList (intChars n)

/-- One more digit at the end of a value. -/
def pushDigit? (n : Nat) (c : Char) : Option Nat := (digit? c).map (n * 10 + ·)

/-- The value of a non-empty list of ASCII digits. -/
def natOfDigits? : List Char → Option Nat
  | [] => none
  | cs => cs.foldlM pushDigit? 0

theorem foldlM_pushDigit?_append (cs : List Char) (c : Char) (n : Nat) :
    (cs ++ [c]).foldlM pushDigit? n = (cs.foldlM pushDigit? n).bind (pushDigit? · c) := by
  simp [List.foldlM_append]

theorem foldlM_pushDigit?_digits (n : Nat) : (digits n).foldlM pushDigit? 0 = some n := by
  induction n using Nat.strongRecOn with
  | _ n ih =>
    rw [digits]
    split
    next h => simp [pushDigit?, digit?_digitChar h]
    next h =>
      rw [foldlM_pushDigit?_append, ih (n / 10) (by omega)]
      simp only [Option.bind_some, pushDigit?, digit?_digitChar (Nat.mod_lt n (by decide)),
        Option.map_some, Option.some.injEq]
      omega

theorem digits_ne_nil (n : Nat) : digits n ≠ [] := by
  rw [digits]; split <;> simp

/-- Reading the digits of a natural gives it back. -/
theorem natOfDigits?_digits (n : Nat) : natOfDigits? (digits n) = some n := by
  rw [← foldlM_pushDigit?_digits n]
  rcases h : digits n with _ | ⟨c, cs⟩
  · exact absurd h (digits_ne_nil n)
  · rfl

end CostJournal
