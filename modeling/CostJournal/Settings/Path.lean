import CostJournal.Text.Digits
import CostJournal.Text.Split

/-!
# Paths of settings

Where in nested settings a value stands: names of fields with points between them, and numbers of
items in brackets after a name. Names have no upper case.
-/

namespace CostJournal

/-- One step to a part of a setting. -/
inductive PathStep where
  | field (name : String)
  /-- An item by its number; numbers below zero count from the end. -/
  | item (index : Int)
deriving DecidableEq

namespace PathStep

/-- A character of a name in lower case. All names that are looked for are in ASCII, and outside ASCII
only the Kelvin sign becomes a letter of ASCII. -/
def lowered (c : Char) : Char := if c = '\u212A' then 'k' else c.toLower

def ofName (s : String) : PathStep := .field (String.ofList (s.toList.map lowered))

/-- The characters of names in a path. -/
def isNameChar (c : Char) : Bool := c.isAlphanum || c == ' ' || c == '_' || c == '-'

def isPadding (c : Char) : Bool := c == ' ' || c == '\t'

/-- A number with blanks around it. -/
def index? (cs : List Char) : Option Int :=
  let n? : Option Int := match ((cs.dropWhile isPadding).reverse.dropWhile isPadding).reverse with
    | '-' :: ds => (natOfDigits? ds).map fun n => -n
    | ds => (natOfDigits? ds).map Int.ofNat
  n?.filter (isSigned 63)

/-- A name and numbers in brackets after it. -/
def ofPart? (cs : List Char) : Option (List PathStep) := do
  let (name, rest) := cs.span isNameChar
  if name.isEmpty then none
  let indices ← match splitAtMark '[' rest with
    | [] :: pieces => pieces.mapM fun piece =>
      if piece.getLast? = some ']' then index? piece.dropLast else none
    | _ => none
  return .ofName (String.ofList name) :: indices.map .item

/-- The steps of a path; a text that is no path is one name. -/
def ofText (s : String) : List PathStep :=
  match (splitAtMark '.' s.toList).mapM ofPart? with
  | some parts => List.flatten parts
  | none => [.ofName s]

end PathStep

end CostJournal
