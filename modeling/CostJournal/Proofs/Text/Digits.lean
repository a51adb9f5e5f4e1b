import CostJournal.Json.Basic

/-!
# Digits and their value

`digitsValue` is the value that every reader of digits computes. The digits of a natural, the padded ones
and zeros have the value one expects, and only the digits of zero start with a zero.
-/

namespace CostJournal
open Json

/-- The value of digits that come after those of `n`. -/
def digitsValue (n : Nat) (cs : List Char) : Nat := cs.foldl (fun n c => n * 10 + digitValue c) n

def AreDigits (cs : List Char) : Prop := ∀ c ∈ cs, c.isDigit = true

variable {c : Char} {cs ds : List Char} {n m k : Nat}

theorem isDigit_iff_digit? : c.isDigit = true ↔ ∃ d, digit? c = some d ∧ d < 10 := by
  rw [Char.isDigit, digit?, Bool.and_eq_true, decide_eq_true_eq, decide_eq_true_eq]
  show '0'.val ≤ c.val ∧ c.val ≤ '9'.val ↔ _
  rw [← Char.le_def, ← Char.le_def]
  split
  next h =>
    have hle : c.toNat ≤ 57 := h.2
    exact ⟨fun _ => ⟨_, rfl, by show c.toNat - 48 < 10; omega⟩, fun _ => h⟩
  next h => exact ⟨fun hc => absurd hc h, fun ⟨_, hc, _⟩ => nomatch hc⟩

theorem digit?_of_isDigit (h : c.isDigit = true) : digit? c = some (digitValue c) := by
  obtain ⟨d, hd, -⟩ := isDigit_iff_digit?.mp h
  rw [digitValue, hd]
  rfl

theorem isSome_digit? (c : Char) : (digit? c).isSome = c.isDigit := by
  cases hc : c.isDigit with
  | true => rw [digit?_of_isDigit hc, Option.isSome_some]
  | false =>
    rw [digit?, if_neg, Option.isSome_none]
    rintro ⟨hzero, hnine⟩
    have hdigit : c.isDigit = true := Bool.and_eq_true_iff.mpr ⟨decide_eq_true hzero, decide_eq_true hnine⟩
    exact absurd (hdigit.symm.trans hc) (by decide)

theorem digitValue_lt (h : c.isDigit = true) : digitValue c < 10 := by
  obtain ⟨d, hd, hlt⟩ := isDigit_iff_digit?.mp h
  rwa [digitValue, hd]

theorem isDigit_digitChar (h : n < 10) : (digitChar n).isDigit = true :=
  isDigit_iff_digit?.mpr ⟨n, digit?_digitChar h, h⟩

theorem digitValue_digitChar (h : n < 10) : digitValue (digitChar n) = n := by
  rw [digitValue, digit?_digitChar h]
  rfl

namespace AreDigits

theorem nil : AreDigits [] := fun _ h => nomatch h

theorem cons (hc : c.isDigit = true) (h : AreDigits cs) : AreDigits (c :: cs) :=
  List.forall_mem_cons.mpr ⟨hc, h⟩

theorem head (h : AreDigits (c :: cs)) : c.isDigit = true := (List.forall_mem_cons.mp h).1

theorem tail (h : AreDigits (c :: cs)) : AreDigits cs := (List.forall_mem_cons.mp h).2

theorem append (hc : AreDigits cs) (hd : AreDigits ds) : AreDigits (cs ++ ds) :=
  List.forall_mem_append.mpr ⟨hc, hd⟩

theorem zeros (k : Nat) : AreDigits (List.replicate k '0') := by
  intro c hc
  rw [List.eq_of_mem_replicate hc]
  rfl

theorem take (h : AreDigits cs) (k : Nat) : AreDigits (cs.take k) := fun _ hc => h _ (List.mem_of_mem_take hc)

theorem drop (h : AreDigits cs) (k : Nat) : AreDigits (cs.drop k) := fun _ hc => h _ (List.mem_of_mem_drop hc)

end AreDigits

theorem areDigits_digits (n : Nat) : AreDigits (digits n) := by
  induction n using Nat.strongRecOn with
  | _ n ih =>
    rw [digits]
    split
    next h => exact .cons (isDigit_digitChar h) .nil
    next h => exact (ih (n / 10) (by omega)).append (.cons (isDigit_digitChar (Nat.mod_lt n (by decide))) .nil)

theorem areDigits_paddedDigits (k n : Nat) : AreDigits (paddedDigits k n) := by
  induction k with
  | zero => exact .nil
  | succ k ih => exact .cons (isDigit_digitChar (Nat.mod_lt _ (by decide))) ih

theorem digits_zero : digits 0 = ['0'] := by
  rw [digits]
  rfl

theorem length_digits_le (h : n < tenPow (k + 1)) : (digits n).length ≤ k + 1 := by
  induction k generalizing n with
  | zero =>
    rw [digits, if_pos (show n < 10 from h)]
    exact Nat.le_refl 1
  | succ k ih =>
    rw [digits]
    split
    · exact Nat.succ_le_succ (Nat.zero_le _)
    · rw [List.length_append]
      exact Nat.succ_le_succ (ih (by rw [tenPow_succ] at h; omega))

theorem head_digits_ne_zero (h : n ≠ 0) : (digits n).head? ≠ some '0' := by
  induction n using Nat.strongRecOn with
  | _ n ih =>
    rw [digits]
    split
    next hlt =>
      have hchar : ∀ k, k < 10 → k ≠ 0 → [digitChar k].head? ≠ some '0' := by decide
      exact hchar n hlt h
    next hlt =>
      rw [List.head?_append, Option.or_of_isSome (List.isSome_head?.mpr (digits_ne_nil _))]
      exact ih (n / 10) (by omega) (by omega)

theorem digitsValue_append (n : Nat) (cs ds : List Char) :
    digitsValue n (cs ++ ds) = digitsValue (digitsValue n cs) ds :=
  List.foldl_append

theorem digitsValue_eq (n : Nat) (cs : List Char) :
    digitsValue n cs = n * tenPow cs.length + digitsValue 0 cs := by
  induction cs generalizing n with
  | nil => simp [digitsValue, tenPow_zero]
  | cons c cs ih =>
    show digitsValue (n * 10 + digitValue c) cs = _ + digitsValue (0 * 10 + digitValue c) cs
    rw [ih, ih (0 * 10 + digitValue c), List.length_cons, tenPow_succ, Nat.add_mul, Nat.zero_mul, Nat.zero_add,
      Nat.mul_assoc, Nat.mul_comm 10, Nat.add_assoc]

theorem le_digitsValue (n : Nat) (cs : List Char) : n ≤ digitsValue n cs := by
  rw [digitsValue_eq]
  exact Nat.le_add_right_of_le (Nat.le_mul_of_pos_right n (tenPow_pos _))

theorem digitsValue_lt (h : AreDigits cs) : digitsValue 0 cs < tenPow cs.length := by
  induction cs with
  | nil => decide
  | cons c cs ih =>
    have hc := Nat.mul_le_mul_right (tenPow cs.length) (Nat.le_of_lt_succ (digitValue_lt h.head))
    have hcs := ih h.tail
    show digitsValue (0 * 10 + digitValue c) cs < _
    rw [digitsValue_eq, Nat.zero_mul, Nat.zero_add, List.length_cons, tenPow_succ]
    omega

theorem digitsValue_digits (n : Nat) : digitsValue 0 (digits n) = n := by
  induction n using Nat.strongRecOn with
  | _ n ih =>
    rw [digits]
    split
    next h =>
      show 0 * 10 + digitValue (digitChar n) = n
      rw [digitValue_digitChar h]
      omega
    next h =>
      rw [digitsValue_append, ih (n / 10) (by omega)]
      show n / 10 * 10 + digitValue (digitChar (n % 10)) = n
      rw [digitValue_digitChar (Nat.mod_lt n (by decide))]
      omega

theorem digitsValue_zeros (n k : Nat) : digitsValue n (List.replicate k '0') = n * tenPow k := by
  induction k generalizing n with
  | zero => rw [tenPow_zero, Nat.mul_one]; rfl
  | succ k ih =>
    show digitsValue (n * 10 + 0) (List.replicate k '0') = _
    rw [ih, Nat.add_zero, tenPow_succ, Nat.mul_assoc, Nat.mul_comm 10]

theorem digitsValue_paddedDigits (n k m : Nat) :
    digitsValue n (paddedDigits k m) = n * tenPow k + m % tenPow k := by
  induction k generalizing n with
  | zero => rw [tenPow_zero, Nat.mul_one, Nat.mod_one]; rfl
  | succ k ih =>
    show digitsValue (n * 10 + digitValue (digitChar (m / tenPow k % 10))) (paddedDigits k m) = _
    rw [ih, digitValue_digitChar (Nat.mod_lt _ (by decide)), tenPow_succ, Nat.mod_mul, Nat.add_mul,
      Nat.mul_assoc, Nat.mul_comm 10, Nat.mul_comm (m / tenPow k % 10)]
    omega

end CostJournal
