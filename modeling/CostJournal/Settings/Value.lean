import CostJournal.Json.Decode
import CostJournal.Settings.Path

/-!
# Setting values

What a source of settings holds under its names. Sources write the same thing in different ways, so
the readers here are lenient: a number may stand for a text, and a word for a flag.
-/

namespace CostJournal

/-- A number with a point or an exponent, or one of the two words for what is no number. -/
inductive FloatValue where
  | finite (negative : Bool) (magnitude : Binary64)
  | infinite (negative : Bool)
  | notANumber
deriving DecidableEq

namespace FloatValue

/-- Powers of ten from this one on have no finite number. -/
def maxPlace : Int := 310

/-- Numbers below the tenth power of this are zero. -/
def minPlace : Int := -330

/-- The number `significand * 10 ^ exponent`, rounded once. -/
def ofScaled (negative : Bool) (significand : Nat) (exponent : Int) : FloatValue :=
  let place : Int := (digits significand).length + exponent
  if significand = 0 || place < minPlace then finite negative (Binary64.ofNat 0)
  else if maxPlace < place then infinite negative
  else
    let x := if 0 ≤ exponent then Binary64.ofNat (significand * tenPow exponent.toNat)
      else Binary64.ofRatio significand (tenPow exponent.natAbs)
    if x.isFinite then finite negative x else infinite negative

/-- A sign, if there is one, and the rest. -/
def cutSign : List Char → Bool × List Char
  | '-' :: cs => (true, cs)
  | '+' :: cs => (false, cs)
  | cs => (false, cs)

def exponent? : List Char → Option Int
  | [] => some 0
  | c :: cs =>
    if c == 'e' || c == 'E' then
      let (negative, ds) := cutSign cs
      (natOfDigits? ds).map fun n => if negative then -(n : Int) else n
    else none

def isDigit (c : Char) : Bool := (digit? c).isSome

/-- Digits with at most one point among or around them, and perhaps an exponent. -/
def ofDigits? (negative : Bool) (cs : List Char) : Option FloatValue := do
  let (whole, rest) := cs.span isDigit
  let (fraction, rest) := match rest with
    | '.' :: rest => rest.span isDigit
    | _ => ([], rest)
  let significand ← natOfDigits? (whole ++ fraction)
  let exponent ← exponent? rest
  return ofScaled negative significand (exponent - fraction.length)

def ofText? (s : String) : Option FloatValue :=
  let (negative, cs) := cutSign s.toList
  let word := String.ofList (cs.map Char.toLower)
  if word = "inf" || word = "infinity" then some (infinite negative)
  else if word = "nan" then some notANumber
  else ofDigits? negative cs

/-- Positional notation, without an exponent. -/
def toText : FloatValue → String
  | finite negative x => String.ofList (Json.doubleChars negative x)
  | infinite negative => if negative then "-inf" else "inf"
  | notANumber => "NaN"

/-- The nearest natural below 2 ^ 64, a half upwards; zero for what is no number. -/
def round : FloatValue → Nat
  | finite false x => min x.round (twoPow 64 - 1)
  | infinite false => twoPow 64 - 1
  | _ => 0

def isZero : FloatValue → Bool
  | finite _ x => x.isZero
  | _ => false

end FloatValue

/-- An integer of 64 bits with a sign, written with digits. -/
def int64? (s : String) : Option Int := do
  let (negative, cs) := FloatValue.cutSign s.toList
  let n ← natOfDigits? cs
  some (if negative then -(n : Int) else n) |>.filter (isSigned 63)

inductive Setting where
  | nothing
  | flag (b : Bool)
  | integer (n : Int)
  | float (x : FloatValue)
  | text (s : String)
  | list (items : List Setting)
  | table (fields : List (String × Setting))

namespace Setting

def fields : Setting → List (String × Setting)
  | table fs => fs
  | _ => []

/-- The fields with `value` under `name`. -/
def putField (name : String) (value : Setting) : List (String × Setting) → List (String × Setting)
  | [] => [(name, value)]
  | (n, v) :: rest => if n = name then (name, value) :: rest else (n, v) :: putField name value rest

/-- Anything but a table gives way to a table of one field. -/
def put (name : String) (value root : Setting) : Setting := table (putField name value root.fields)

mutual

/-- Puts a value under a name; the fields of a table go one by one into the table that is there. -/
def assign (name : String) (value : Setting) (root : Setting) : Setting :=
  match value with
  | table fields => put name (assignAll fields ((root.fields.lookup name).getD (table []))) root
  | other => put name other root
termination_by structural value

def assignAll (fields : List (String × Setting)) (root : Setting) : Setting :=
  match fields with
  | [] => root
  | f :: rest => assignAll rest (assignField f root)
termination_by structural fields

def assignField (field : String × Setting) (root : Setting) : Setting :=
  match field with
  | (name, value) => assign name value root
termination_by structural field

end

def items : Setting → List Setting
  | list xs => xs
  | _ => []

/-- The place of an item in a list of some length. -/
def place? (index : Int) (length : Nat) : Option Nat :=
  if 0 ≤ index then some index.toNat
  else if index.natAbs ≤ length then some (length - index.natAbs) else none

/-- Puts a value in the place of an item; up to that place a list that is too short holds nothing, and
anything but a list gives way to one. An item before the first is left out. -/
def putItem (index : Int) (value root : Setting) : Setting :=
  let xs := root.items
  match place? index xs.length with
  | some i => list ((xs ++ List.replicate (i + 1 - xs.length) nothing).set i value)
  | none => root

/-- The item that is in a place, or nothing. -/
def item (index : Int) (root : Setting) : Setting :=
  match place? index root.items.length with
  | some i => root.items[i]?.getD nothing
  | none => nothing

/-- Puts a value at the end of a path, with all that leads there. -/
def assignPath (value : Setting) : List PathStep → Setting → Setting
  | [], root => root
  | [.field name], root => assign name value root
  | .field name :: rest, root =>
    put name (assignPath value rest ((root.fields.lookup name).getD nothing)) root
  | [.item index], root => putItem index value root
  | .item index :: rest, root => putItem index (assignPath value rest (root.item index)) root

mutual

/-- The setting that a JSON value is: names in lower case, integers of 64 bits with a sign, and other
numbers as floats. -/
def ofJson : Json → Setting
  | .null => nothing
  | .bool b => flag b
  | .number t =>
    match Json.numberValue? t with
    | some (.integer n) => if n < twoPow 63 then integer n else float (.finite false (.ofNat n.natAbs))
    | some (.double negative x) => float (.finite negative x)
    | none => nothing
  | .string s => text s
  | .array items => list (ofItems items)
  | .object fields => table (ofFields fields)
  | .unreadable => nothing
termination_by structural j => j

def ofItems : List Json → List Setting
  | [] => []
  | j :: rest => ofJson j :: ofItems rest
termination_by structural js => js

def ofFields : List (String × Json) → List (String × Setting)
  | [] => []
  | f :: rest => ofField f :: ofFields rest
termination_by structural fs => fs

def ofField : String × Json → String × Setting
  | (name, j) => (String.ofList (name.toList.map PathStep.lowered), ofJson j)
termination_by structural f => f

end

def toText? : Setting → Option String
  | flag b => some (if b then "true" else "false")
  | integer n => some (intText n)
  | float x => some x.toText
  | text s => some s
  | _ => none

/-- The words for a flag. -/
def word? (s : String) : Option Bool :=
  let word := String.ofList (s.toList.map Char.toLower)
  if ["true", "on", "yes"].contains word then some true
  else if ["false", "off", "no"].contains word then some false
  else none

def toFlag? : Setting → Option Bool
  | flag b => some b
  | integer n => some (n != 0)
  | float x => some !x.isZero
  | text s => if s = "1" then some true else if s = "0" then some false else word? s
  | _ => none

/-- A natural below `limit`, written in any way that has a value. -/
def toNatural? (limit : Nat) (s : Setting) : Option Nat :=
  let n? : Option Int := match s with
    | integer n => some n
    | flag b => some (if b then 1 else 0)
    | float x => some x.round
    | text s =>
      match word? s with
      | some b => some (if b then 1 else 0)
      | none => (natOfDigits? (match s.toList with | '+' :: cs => cs | cs => cs)).map Int.ofNat
    | _ => none
  match n? with
  | some n => if 0 ≤ n ∧ n < limit then some n.toNat else none
  | none => none

/-- A decimal from a number, or from a text that holds one. -/
def toDecimal? : Setting → Option Decimal
  | integer n => Decimal.ofParts? n 0
  | float (.finite negative x) => (Decimal.ofChars (Json.doubleChars negative x)).toOption
  | text s => (Decimal.ofAnyText s).toOption
  | _ => none

def toTexts? : Setting → Option (List String)
  | list items => items.mapM toText?
  | _ => none

/-- The fields of a record of known names; a list holds them in order. -/
def toRecord? (names : List String) : Setting → Option (List (String × Setting))
  | table fields => some fields
  | list items => some (names.zip items)
  | _ => none

end Setting

end CostJournal
