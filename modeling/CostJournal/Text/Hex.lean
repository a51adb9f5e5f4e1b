/-!
# Hexadecimal digits

Digits up to fifteen, and naturals written with them in any base up to sixteen.
-/

namespace CostJournal

def upperHexDigit (n : Nat) : Char :=
  if n < 10 then Char.ofNat ('0'.toNat + n) else Char.ofNat ('A'.toNat + n - 10)

def lowerHexDigit (n : Nat) : Char := (upperHexDigit n).toLower

def hexDigit? (c : Char) : Option Nat :=
  if '0' ≤ c ∧ c ≤ '9' then some (c.toNat - '0'.toNat)
  else if 'a' ≤ c ∧ c ≤ 'f' then some (c.toNat - 'a'.toNat + 10)
  else if 'A' ≤ c ∧ c ≤ 'F' then some (c.toNat - 'A'.toNat + 10)
  else none

/-- The value of digits below `base`; no digits are zero. -/
def natOfBase? (base : Nat) (ds : List Char) : Option Nat :=
  ds.foldlM (fun n c => (hexDigit? c).bind fun d => if d < base then some (base * n + d) else none) 0

/-- The lower case digits of a natural, without leading zeros. -/
def hexDigits (n : Nat) : List Char :=
  if n < 16 then [lowerHexDigit n] else hexDigits (n / 16) ++ [lowerHexDigit (n % 16)]

end CostJournal
