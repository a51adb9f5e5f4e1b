import CostJournal.Http.Domain
import CostJournal.Text.Percent

/-!
# Hosts

The host of a URL: a domain, an address of four bytes, or an address of eight groups in brackets. A
domain whose last part is a number has to be an address. Each host has one written form
(`Host.toText`).
-/

namespace CostJournal

inductive Host where
  | name (domain : List Char)
  /-- An address below 2 ^ 32. -/
  | number (address : Nat)
  /-- Eight numbers below 2 ^ 16. -/
  | groups (address : List Nat)
deriving DecidableEq

namespace Host

/-- A group of an address in brackets: one to four hexadecimal digits. -/
def group? (cs : List Char) : Option Nat :=
  if cs.isEmpty || 4 < cs.length then none else natOfBase? 16 cs

/-- A number up to 255 without leading zeros. -/
def octet? (cs : List Char) : Option Nat :=
  (natOfDigits? cs).filter fun n => n ≤ 255 && digits n == cs

/-- The number that bytes stand for, the highest first. -/
def ofBytes (bytes : List Nat) : Nat := bytes.foldl (fun n b => 256 * n + b) 0

/-- Four numbers with points between them. -/
def dottedQuad? (cs : List Char) : Option Nat :=
  match (splitAtMark '.' cs).mapM octet? with
  | some [a, b, c, d] => some (ofBytes [a, b, c, d])
  | _ => none

/-- Groups with colons between them; with `quad`, the last may be four numbers, which stand for two. -/
def groupList? (quad : Bool) (cs : List Char) : Option (List Nat) :=
  if cs.isEmpty then some []
  else
    let parts := splitAtMark ':' cs
    match parts.mapM group? with
    | some gs => some gs
    | none => do
      let gs ← parts.dropLast.mapM group?
      let n ← dottedQuad? (← if quad then parts.getLast? else none)
      return gs ++ [n / twoPow 16, n % twoPow 16]

/-- The text before the first double colon, and the text after it. -/
def cutAtDoubleColon : List Char → Option (List Char × List Char)
  | ':' :: ':' :: cs => some ([], cs)
  | c :: cs => (cutAtDoubleColon cs).map fun p => (c :: p.1, p.2)
  | [] => none

/-- Eight groups, or fewer around one double colon, which stands for groups of zero. -/
def groupAddress? (cs : List Char) : Option (List Nat) :=
  match cutAtDoubleColon cs with
  | some (before, after) => do
    let front ← groupList? false before
    let back ← groupList? true after
    if front.length + back.length ≤ 7 then
      some (front ++ List.replicate (8 - front.length - back.length) 0 ++ back)
    else none
  | none => (groupList? true cs).filter (·.length == 8)

/-- A number in decimal, octal after a zero, or hexadecimal after `0x`. -/
def number? (cs : List Char) : Option Nat :=
  match cs with
  | [] => none
  | '0' :: 'x' :: ds => natOfBase? 16 ds
  | '0' :: 'X' :: ds => natOfBase? 16 ds
  | '0' :: d :: ds => natOfBase? 8 (d :: ds)
  | ds => natOfBase? 10 ds

/-- The parts between points; a point at the end counts only by itself. -/
def domainParts (cs : List Char) : List (List Char) :=
  let parts := splitAtMark '.' cs
  if parts.length > 1 && parts.getLast? == some [] then parts.dropLast else parts

def endsInNumber (cs : List Char) : Bool :=
  match (domainParts cs).getLast? with
  | some part => (!part.isEmpty && part.all fun c => (digit? c).isSome) || (number? part).isSome
  | none => false

/-- Up to four numbers, of which the last fills the bytes that the others leave. -/
def numberAddress? (cs : List Char) : Option Nat := do
  let numbers ← (domainParts cs).mapM number?
  let last ← numbers.getLast?
  let before := numbers.dropLast
  let free := 8 * (4 - before.length)
  if before.length ≤ 3 && before.all (· ≤ 255) && last < twoPow free then
    return ofBytes before * twoPow free + last
  else none

/-- The characters that no host has. -/
def forbidden : List Char := " #/:<>?@[\\]^|".toList

def isForbidden (c : Char) : Bool := isControl c || c == '%' || forbidden.contains c

/-- An address of groups in brackets, or else what `read` says. -/
def ofBracketed? (read : List Char → Option Host) (cs : List Char) : Option Host :=
  match cs with
  | '[' :: rest =>
    if rest.getLast? = some ']' then (groupAddress? rest.dropLast).map groups else none
  | _ => read cs

/-- A domain or an address, written in any way. -/
def ofDomain? (cs : List Char) : Option Host := do
  let s ← String.fromUTF8? ⟨(percentDecode cs).toArray⟩
  let domain ← Domain.toAscii? s.toList
  if domain.isEmpty || domain.any isForbidden then none
  else if endsInNumber domain then (numberAddress? domain).map number
  else some (name domain)

/-- A host of a web or file URL. -/
def ofText? : List Char → Option Host := ofBracketed? ofDomain?

/-- A host of any other URL, which is taken as it is and may be empty. -/
def ofPlainText? : List Char → Option Host :=
  ofBracketed? fun cs =>
    if cs.all fun c => c.toNat != 0 && !forbidden.contains c then some (name cs) else none

/-- How many zeros a list starts with. -/
def leadingZeros (gs : List Nat) : Nat := (gs.takeWhile (· == 0)).length

/-- Where the first of the longest rows of zeros starts, and how long it is; `index` is where the
list starts. -/
def longestZeros (index : Nat) : List Nat → Nat × Nat
  | [] => (index, 0)
  | g :: gs =>
    let (start, length) := longestZeros (index + 1) gs
    let here := leadingZeros (g :: gs)
    if length ≤ here then (index, here) else (start, length)

/-- Groups with colons between them. -/
def groupChars (gs : List Nat) : List Char := joinWith ':' (gs.map hexDigits)

/-- The longest row of zeros is a double colon. -/
def addressChars (gs : List Nat) : List Char :=
  let (start, length) := longestZeros 0 gs
  if length < 2 then groupChars gs
  else groupChars (gs.take start) ++ "::".toList ++ groupChars (gs.drop (start + length))

def toChars : Host → List Char
  | name domain => domain
  | number n =>
    joinWith '.' ([n / twoPow 24, n / twoPow 16 % 256, n / 256 % 256, n % 256].map digits)
  | groups gs => '[' :: addressChars gs ++ [']']

end Host

end CostJournal
