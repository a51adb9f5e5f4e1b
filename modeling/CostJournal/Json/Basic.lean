import CostJournal.Binary64

/-!
# JSON values

A value keeps what its text says: numbers as they are written, and the fields of objects in their
order, repeated names included. What a number is worth is `numberValue?`.
-/

namespace CostJournal

inductive Json where
  | null
  | bool (b : Bool)
  | number (text : String)
  | string (s : String)
  | array (items : List Json)
  | object (fields : List (String × Json))
  /-- Well-formed, but half of a surrogate pair in it, or in a name in it, is no text. -/
  | unreadable
deriving Inhabited

/-- What a number is worth: an integer of 64 bits, or else a double. -/
inductive NumberValue where
  | integer (n : Int)
  | double (negative : Bool) (magnitude : Binary64)
deriving DecidableEq

namespace Json

/-- The parts of a number as it is written. -/
structure Numeral where
  negative : Bool
  whole : List Char
  fraction : List Char
  /-- Present when the number has an exponent. -/
  exponent : Option (Bool × List Char)

/-- The parts of a well-formed number. -/
def Numeral.ofChars (cs : List Char) : Numeral :=
  let negative := cs.head? == some '-'
  let (whole, rest) := (if negative then cs.drop 1 else cs).span Char.isDigit
  let (fraction, rest) :=
    if rest.head? == some '.' then (rest.drop 1).span Char.isDigit else ([], rest)
  let exponent := match rest with
    | _ :: '-' :: ds => some (true, ds)
    | _ :: '+' :: ds => some (false, ds)
    | _ :: ds => some (false, ds)
    | [] => none
  ⟨negative, whole, fraction, exponent⟩

def digitValue (c : Char) : Nat := (digit? c).getD 0

/-- Takes digits into a significand while it stays below 2 ^ 64; the rest is returned. -/
def takeDigits (significand : Nat) : List Char → Nat × List Char
  | [] => (significand, [])
  | c :: cs =>
    let next := significand * 10 + digitValue c
    if next < twoPow 64 then takeDigits next cs else (significand, c :: cs)

/-- `significand * 10 ^ exponent` in doubles: one product or quotient by a power of at most 308, and
before it quotients by `10 ^ 308` until the exponent is in range; `fuel` bounds their number, and the
fourth leaves zero. -/
def scaled? (significand : Binary64) (exponent : Int) : (fuel : Nat) → Option Binary64
  | 0 => some ⟨0, Binary64.minExponent⟩
  | fuel + 1 =>
    if exponent.natAbs ≤ 308 then
      let power := Binary64.ofNat (tenPow exponent.natAbs)
      if 0 ≤ exponent then
        let product := significand.mul power
        if product.isFinite then some product else none
      else some (significand.div power)
    else if significand.isZero then some significand
    else if 0 ≤ exponent then none
    else scaled? (significand.div (Binary64.ofNat (tenPow 308))) (exponent + 308) fuel

/-- The largest exponent that is read digit by digit. -/
def maxWrittenExponent : Nat := twoPow 31 - 1

/-- The double of a number: its leading digits below 2 ^ 64, scaled. A written exponent out of range
gives zero when it is negative. -/
def Numeral.double? (n : Numeral) : Option Binary64 :=
  let (significand, extra) := takeDigits 0 n.whole
  let (significand', rest) := takeDigits significand n.fraction
  let start : Int := (extra.length : Int) - (n.fraction.length - rest.length)
  match n.exponent with
  | none => scaled? (.ofNat significand') start 5
  | some (down, ds) =>
    let e := (natOf ds)
    if maxWrittenExponent < e then
      if significand' ≠ 0 ∧ ¬down then none else some ⟨0, Binary64.minExponent⟩
    else scaled? (.ofNat significand') (if down then start - e else start + e) 5
where
  natOf (ds : List Char) : Nat := ds.foldl (fun n c => n * 10 + digitValue c) 0

/-- The worth of a number; none when it is too large for a double. -/
def numberValue? (text : String) : Option NumberValue :=
  let n := Numeral.ofChars text.toList
  let (significand, extra) := takeDigits 0 n.whole
  let isWhole := n.exponent.isNone && n.fraction.isEmpty && extra.isEmpty
  if isWhole && !n.negative then some (.integer significand)
  else if isWhole && significand != 0 && significand ≤ twoPow 63 then some (.integer (-significand))
  else n.double?.map (.double n.negative)

def ofNat (n : Nat) : Json := .number (String.ofList (digits n))

def ofInt (n : Int) : Json :=
  if n < 0 then .number (String.ofList ('-' :: digits n.natAbs)) else ofNat n.natAbs

/-- A decimal as a number with a point. A zero without places is written without a sign. -/
def ofDecimal (d : Decimal) : Json :=
  let cs := (Binary64.ofDecimal d).toFloatText
  .number (String.ofList (if d.negative && (d.scale != 0 || !d.isZero) then '-' :: cs else cs))

/-- The name is written once, with its last value, where it was first. -/
def setField (name : String) (value : Json) : List (String × Json) → List (String × Json)
  | [] => [(name, value)]
  | (n, v) :: rest => if n = name then (name, value) :: rest else (n, v) :: setField name value rest

mutual

/-- How deep arrays and objects are nested. -/
def depth : Json → Nat
  | array items => depthItems items + 1
  | object fields => depthFields fields + 1
  | _ => 0
termination_by structural j => j

def depthItems : List Json → Nat
  | [] => 0
  | j :: rest => Nat.max (depth j) (depthItems rest)
termination_by structural js => js

def depthFields : List (String × Json) → Nat
  | [] => 0
  | f :: rest => Nat.max (depthField f) (depthFields rest)
termination_by structural fs => fs

def depthField : String × Json → Nat
  | (_, v) => depth v
termination_by structural f => f

end

mutual

/-- All text in the value is text, and all numbers are in range. -/
def isReadable : Json → Bool
  | number text => (numberValue? text).isSome
  | array items => areReadable items
  | object fields => fieldsAreReadable fields
  | unreadable => false
  | _ => true
termination_by structural j => j

def areReadable : List Json → Bool
  | [] => true
  | j :: rest => isReadable j && areReadable rest
termination_by structural js => js

def fieldsAreReadable : List (String × Json) → Bool
  | [] => true
  | f :: rest => fieldIsReadable f && fieldsAreReadable rest
termination_by structural fs => fs

def fieldIsReadable : String × Json → Bool
  | (_, v) => isReadable v
termination_by structural f => f

end

/-- The deepest nesting that is read as a value. -/
def maxDepth : Nat := 127

/-- Whether a well-formed text is read as a value when nothing is known about its shape. -/
def isValue (j : Json) : Bool := decide (j.depth ≤ maxDepth) && j.isReadable

mutual

/-- Every object keeps the last value of a repeated name. -/
def withLastFields : Json → Json
  | array items => .array (itemsWithLastFields items)
  | object fields => .object (lastFields fields [])
  | j => j
termination_by structural j => j

def itemsWithLastFields : List Json → List Json
  | [] => []
  | j :: rest => withLastFields j :: itemsWithLastFields rest
termination_by structural js => js

def lastFields : List (String × Json) → List (String × Json) → List (String × Json)
  | [], done => done
  | f :: rest, done =>
    let g := fieldWithLastFields f
    lastFields rest (setField g.1 g.2 done)
termination_by structural fs => fs

def fieldWithLastFields : String × Json → String × Json
  | (n, v) => (n, withLastFields v)
termination_by structural f => f

end

end Json

end CostJournal
