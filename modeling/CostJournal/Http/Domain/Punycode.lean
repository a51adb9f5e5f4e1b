import CostJournal.Text.Digits

/-!
# Labels in ASCII

A label of any characters, written with letters, digits and hyphens: its ASCII characters, and after
the last hyphen numbers that say which other characters go where, from the lowest character to the
highest. The digits of a number have bases of their own, which follow the size of the numbers before
it; a digit below its base's threshold ends the number.
-/

namespace CostJournal.Punycode

/-- How many digits there are. -/
def base : Nat := 36

/-- The first character outside ASCII. -/
def firstCode : Nat := 0x80

def firstBias : Nat := 72

/-- A letter, or a digit for values from 26 on. -/
def digitOf (n : Nat) : Char :=
  if n < 26 then Char.ofNat ('a'.toNat + n) else Char.ofNat ('0'.toNat + (n - 26))

def valueOf? (c : Char) : Option Nat :=
  if 'a' ≤ c ∧ c ≤ 'z' then some (c.toNat - 'a'.toNat)
  else (digit? c).map (· + 26)

/-- Digits below the threshold of their place end a number. -/
def threshold (place bias : Nat) : Nat := min 26 (max 1 (place - bias))

theorem one_le_threshold (place bias : Nat) : 1 ≤ threshold place bias := by
  unfold threshold; omega

/-- The number of places that a size takes, times the base, and what is left of it. -/
def shrink (places size : Nat) : Nat × Nat :=
  if 455 < size then shrink (places + base) (size / 35) else (places, size)
termination_by size

/-- The bias after a number, when the text has `count` characters. -/
def adapt (number count : Nat) (isFirst : Bool) : Nat :=
  let size := if isFirst then number / 700 else number / 2
  let (places, size) := shrink 0 (size + size / count)
  places + base * size / (size + 38)

/-- Digits that are read one by one. -/
structure Reading where
  text : List Char
  code : Nat := firstCode
  /-- Where the character after the last one that was put in is. -/
  index : Nat := 0
  bias : Nat := firstBias
  /-- What the digits since the last number say. -/
  number : Nat := 0
  weight : Nat := 1
  place : Nat := base

namespace Reading

/-- One more digit; with the last digit of a number a character goes to its place. -/
def step? (r : Reading) (c : Char) : Option Reading := do
  let digit ← valueOf? c
  let number := r.number + digit * r.weight
  let t := threshold r.place r.bias
  if t ≤ digit then
    return { r with number, weight := r.weight * (base - t), place := r.place + base }
  let count := r.text.length + 1
  let code := r.code + (r.index + number) / count
  let index := (r.index + number) % count
  if Nat.isValidChar code then
    return {
      text := r.text.take index ++ Char.ofNat code :: r.text.drop index
      code
      index := index + 1
      bias := adapt number count (r.index == 0) }
  else none

end Reading

/-- The ASCII characters before the last hyphen, and the digits after it. A hyphen at the start is one
of the digits. -/
def cut (cs : List Char) : List Char × List Char :=
  let after := (cs.reverse.takeWhile (· != '-')).reverse
  let before := cs.take (cs.length - after.length)
  if before.length ≤ 1 then ([], cs) else (before.dropLast, after)

/-- The text that is written so. -/
def decode? (cs : List Char) : Option (List Char) := do
  let (before, digits) := cut cs
  let r ← digits.foldlM Reading.step? { text := before }
  if r.place = base then some r.text else none

/-- The digits of a number. -/
def numberDigits (bias place n : Nat) : List Char :=
  let t := threshold place bias
  if n < t then [digitOf n]
  else digitOf (t + (n - t) % (base - t)) :: numberDigits bias (place + base) ((n - t) / (base - t))
termination_by n
decreasing_by
  have := one_le_threshold place bias
  have := Nat.div_le_self (n - threshold place bias) (base - threshold place bias)
  omega

/-- Characters that are written one by one. -/
structure Writing where
  digits : List Char := []
  /-- How many characters are written. -/
  count : Nat
  number : Nat := 0
  bias : Nat := firstBias

namespace Writing

/-- Passes a character, and writes it if it is the one of that code point. -/
def step (asciiCount code : Nat) (w : Writing) (c : Char) : Writing :=
  if c.toNat < code then { w with number := w.number + 1 }
  else if c.toNat = code then
    { digits := w.digits ++ numberDigits w.bias base w.number
      count := w.count + 1
      number := 0
      bias := adapt w.number (w.count + 1) (w.count == asciiCount) }
  else w

/-- Writes the characters of each code point; `next` is the one after the code point before. -/
def pass (asciiCount : Nat) (cs : List Char) (next : Nat) (w : Writing) : List Nat → Writing
  | [] => w
  | code :: codes =>
    let start := { w with number := w.number + (code - next) * (w.count + 1) }
    let done := cs.foldl (step asciiCount code) start
    pass asciiCount cs (code + 1) { done with number := done.number + 1 } codes

end Writing

/-- Writes a text with letters, digits and hyphens. -/
def encode (cs : List Char) : List Char :=
  let ascii := cs.filter (·.toNat < firstCode)
  let codes := ((cs.map Char.toNat).filter (firstCode ≤ ·)).mergeSort.eraseDups
  let w := Writing.pass ascii.length cs firstCode { count := ascii.length } codes
  ascii ++ (if ascii.isEmpty then [] else ['-']) ++ w.digits

end CostJournal.Punycode
