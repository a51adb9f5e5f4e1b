/-!
# Blanks

The characters with the Unicode property White_Space, and texts without them at their ends.
-/

namespace CostJournal

/-- The ranges of code points with the property White_Space. -/
def blankRanges : List (Nat × Nat) :=
  [(0x09, 0x0D), (0x20, 0x20), (0x85, 0x85), (0xA0, 0xA0), (0x1680, 0x1680), (0x2000, 0x200A),
    (0x2028, 0x2029), (0x202F, 0x202F), (0x205F, 0x205F), (0x3000, 0x3000)]

def isBlank (c : Char) : Bool := blankRanges.any fun r => r.1 ≤ c.toNat && c.toNat ≤ r.2

def trimLeft (cs : List Char) : List Char := cs.dropWhile isBlank

/-- The characters from the first to the last that is no blank. -/
def trimBlanks (cs : List Char) : List Char := (trimLeft (trimLeft cs).reverse).reverse

end CostJournal
