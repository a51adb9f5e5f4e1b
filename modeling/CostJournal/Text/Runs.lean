import CostJournal.Text.Digits
import CostJournal.Text.Hex
import CostJournal.Text.Split

/-!
# Tables of characters

What a standard says of each character, as runs of code points that share an entry. A run is written
as a letter for its kind, a count if it is not one, and hexadecimal numbers after points: `c4.dc` is
four code points of kind `c` with the number 0xDC.
-/

namespace CostJournal

/-- Consecutive code points with one entry. -/
structure CharRun where
  kind : Char
  length : Nat
  numbers : List Nat
deriving DecidableEq

namespace CharRun

def ofChars (cs : List Char) : CharRun :=
  match splitAtMark '.' cs with
  | (kind :: count) :: numbers =>
    ⟨kind, (natOfDigits? count).getD 1, numbers.map fun ds => (natOfBase? 16 ds).getD 0⟩
  | _ => ⟨' ', 0, []⟩

/-- Runs with blanks between them. -/
def ofLines (lines : List String) : List CharRun :=
  lines.flatMap fun line => (splitAtMark ' ' line.toList).map ofChars

/-- The run that a place is in, and the distance from the run's start. -/
def find? : List CharRun → Nat → Option (CharRun × Nat)
  | [], _ => none
  | r :: rs, n => if n < r.length then some (r, n) else find? rs (n - r.length)

end CharRun

/-- Runs from a first code point on. -/
structure CharTable where
  first : Nat
  runs : List CharRun

namespace CharTable

/-- The run that a character is in, and the distance from the run's start. -/
def find? (t : CharTable) (c : Char) : Option (CharRun × Nat) :=
  if c.toNat < t.first then none else CharRun.find? t.runs (c.toNat - t.first)

/-- The kind of a character, if the table goes that far. -/
def kind? (t : CharTable) (c : Char) : Option Char := (t.find? c).map (·.1.kind)

end CharTable

end CostJournal
