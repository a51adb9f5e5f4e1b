/-!
# Powers of ten and of two

The weights of decimal places and the sizes of words, with the two laws by which places add up:
`tenPow_succ` and `tenPow_add`.
-/

namespace CostJournal

/-- A one with `n` zeros. -/
def tenPow : Nat → Nat
  | 0 => 1
  | n + 1 => tenPow n * 10

/-- How many words have `n` bits. -/
def twoPow (n : Nat) : Nat := 1 <<< n

theorem tenPow_zero : tenPow 0 = 1 := rfl

theorem tenPow_succ (n : Nat) : tenPow (n + 1) = tenPow n * 10 := rfl

theorem tenPow_add (m n : Nat) : tenPow (m + n) = tenPow m * tenPow n := by
  induction n with
  | zero => simp [tenPow]
  | succ n ih => rw [← Nat.add_assoc, tenPow_succ, tenPow_succ, ih, Nat.mul_assoc]

theorem tenPow_pos (n : Nat) : 0 < tenPow n := by
  induction n with
  | zero => decide
  | succ n ih => rw [tenPow_succ]; omega

theorem tenPow_ne_zero (n : Nat) : tenPow n ≠ 0 := Nat.ne_of_gt (tenPow_pos n)

theorem twoPow_succ (n : Nat) : twoPow (n + 1) = twoPow n * 2 := by
  rw [twoPow, twoPow, Nat.shiftLeft_succ, Nat.mul_comm]

theorem twoPow_pos (n : Nat) : 0 < twoPow n := by
  induction n with
  | zero => decide
  | succ n ih => rw [twoPow_succ]; omega

/-- The integer is one of `bits + 1` bits, of which the first is the sign. -/
def isSigned (bits : Nat) (n : Int) : Bool := -(twoPow bits : Int) ≤ n && n < twoPow bits

end CostJournal
