import CostJournal.Http.Domain.Mapping
import CostJournal.Http.Domain.Punycode
import CostJournal.Text.Direction
import CostJournal.Text.Joining
import CostJournal.Text.Normalization

/-!
# Domains

A domain is labels with points between them. Labels may have characters outside ASCII; the domain is
then known by labels in ASCII (`Domain.toAscii?`). Characters are mapped first, so that a domain may be
written in many ways, and then every label is checked: what it starts with, which invisible characters
it has, and, when some label is read from right to left, the directions of all.
-/

namespace CostJournal.Domain

/-- The characters of a domain after mapping, in normal form. -/
def mapping? (cs : List Char) : Option (List Char) :=
  (cs.mapM mapped?).map fun parts => normalize (List.flatten parts)

def isAscii (cs : List Char) : Bool := cs.all (·.toNat < 0x80)

/-- What labels start with that stand for characters outside ASCII. -/
def encodedMark : List Char := "xn--".toList

/-- The most characters after the mark. -/
def maxEncoded : Nat := 2000

/-- The most characters of a label that is to be encoded. -/
def maxDecoded : Nat := 1000

/-- A label is all that it may be encoded from: in normal form, and not all in ASCII. -/
def isDecoded (cs : List Char) : Bool := !isAscii cs && cs.all isUnmapped && normalize cs == cs

/-- The characters that a label stands for. -/
def characters? (label : List Char) : Option (List Char) :=
  if encodedMark.isPrefixOf label then
    let encoded := label.drop encodedMark.length
    if isAscii encoded && encoded.length ≤ maxEncoded then
      (Punycode.decode? encoded).filter isDecoded
    else none
  else some label

def nonJoiner : Char := '\u200C'

def joiner : Char := '\u200D'

/-- A character that is written together with what is before it joins the next, if none of those
between matters. -/
def joinsNext (before : List Char) : Bool :=
  match (before.map joining).dropWhile (· == .transparent) with
  | side :: _ => side == .left || side == .both
  | [] => false

def joinsPrevious (after : List Char) : Bool :=
  match (after.map joining).dropWhile (· == .transparent) with
  | side :: _ => side == .right || side == .both
  | [] => false

/-- Invisible characters stand only where they change how a word is written; `before` has the nearest
character first. -/
def hasJoinersInPlace (before : List Char) : List Char → Bool
  | [] => true
  | c :: cs =>
    let afterVirama := before.head?.any fun b => combiningClass b == viramaClass
    (if c = joiner then afterVirama
      else if c = nonJoiner then afterVirama || (joinsNext before && joinsPrevious cs)
      else true) && hasJoinersInPlace (c :: before) cs

def isLabel (cs : List Char) : Bool := !(cs.head?.any isMark) && hasJoinersInPlace [] cs

/-- Directions of characters that make a label one that is read from right to left. -/
def isRightToLeft (cs : List Char) : Bool :=
  cs.any fun c => [Direction.right, .arabicLetter, .arabicNumber].contains (direction c)

/-- The directions of a label do not mix. -/
def hasOneDirection (cs : List Char) : Bool :=
  let directions := cs.map direction
  let last? := (directions.reverse.dropWhile (· == .mark)).head?
  let always : List Direction :=
    [.europeanNumber, .europeanSeparator, .commonSeparator, .europeanTerminator, .neutral, .boundary, .mark]
  match directions with
  | [] => true
  | first :: _ =>
    if first = .left then
      directions.all ((.left :: always).contains ·) &&
        last?.any ([Direction.left, .europeanNumber].contains ·)
    else if first = .right ∨ first = .arabicLetter then
      let allowed := .right :: .arabicLetter :: .arabicNumber :: always
      directions.all (allowed.contains ·) &&
        last?.any ([Direction.right, .arabicLetter, .europeanNumber, .arabicNumber].contains ·) &&
        !(directions.contains .europeanNumber && directions.contains .arabicNumber)
    else false

/-- A label in ASCII. -/
def encoded? (cs : List Char) : Option (List Char) :=
  if isAscii cs then some cs
  else if cs.length ≤ maxDecoded then some (encodedMark ++ Punycode.encode cs)
  else none

/-- The name in ASCII that a domain is known by. -/
def toAscii? (cs : List Char) : Option (List Char) := do
  let labels ← (splitAtMark '.' (← mapping? cs)).mapM characters?
  if labels.all isLabel && (!labels.any isRightToLeft || labels.all hasOneDirection) then
    return joinWith '.' (← labels.mapM encoded?)
  else none

end CostJournal.Domain
