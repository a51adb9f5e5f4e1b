import CostJournal.Json.Basic
import CostJournal.SortedMap

/-!
# Values out of JSON

Small readers, each for one shape, and `record?` for objects of known fields. A record may also be
written as an array of its fields in order; unknown names are skipped, and a known one may come only
once.
-/

namespace CostJournal.Json

def text? : Json → Option String
  | string s => some s
  | _ => none

def flag? : Json → Option Bool
  | bool b => some b
  | _ => none

def integer? : Json → Option Int
  | number t =>
    match numberValue? t with
    | some (.integer n) => some n
    | _ => none
  | _ => none

/-- An integer below `limit` and not below zero. -/
def natural? (limit : Nat) (j : Json) : Option Nat :=
  match j.integer? with
  | some n => if 0 ≤ n ∧ n < limit then some n.toNat else none
  | none => none

/-- An integer of 32 bits with a sign. -/
def int32? (j : Json) : Option Int :=
  j.integer?.filter (isSigned 31)

/-- A double in positional notation. -/
def doubleChars (negative : Bool) (x : Binary64) : List Char :=
  if negative then '-' :: x.toPositional else x.toPositional

/-- A decimal from a number, or from a text that holds one. A number with a point or an exponent is
read by the shortest digits of its double. -/
def decimal? : Json → Option Decimal
  | number t =>
    match numberValue? t with
    | some (.integer n) => Decimal.ofParts? n 0
    | some (.double negative x) => (Decimal.ofChars (doubleChars negative x)).toOption
    | none => none
  | string s => (Decimal.ofAnyText s).toOption
  | _ => none

def list? {α : Type} (item : Json → Option α) : Json → Option (List α)
  | array items => items.mapM item
  | _ => none

/-- An object with values of one shape; the last of a repeated name stays. -/
def map? {α : Type} (value : Json → Option α) : Json → Option (SortedMap α)
  | object fields => (fields.mapM fun f => (value f.2).map (f.1, ·)).map .ofList
  | _ => none

/-- A value, or null for its absence. -/
def nullable? {α : Type} (value : Json → Option α) : Json → Option (Option α)
  | null => some none
  | j => (value j).map some

/-- The name of a choice without content: a text, or an object of that one name with null. -/
def choice? : Json → Option String
  | string s => some s
  | object [(name, null)] => some name
  | _ => none

/-- The fields of a record by name. -/
abbrev Record := List (String × Json)

/-- No known name occurs in two fields. -/
def distinctNames (names : List String) (fields : List (String × Json)) : Bool :=
  names.all fun name => (fields.filter fun f => f.1 == name).length ≤ 1

/-- The record with the fields `names`. -/
def record? (names : List String) : Json → Option Record
  | object fields => if distinctNames names fields then some fields else none
  | array items => if items.length ≤ names.length then some (names.zip items) else none
  | _ => none

namespace Record

variable {α : Type}

def required (r : Record) (name : String) (value : Json → Option α) : Option α :=
  (r.lookup name).bind value

/-- The field, or `absent` when it is missing. -/
def withDefault (r : Record) (name : String) (value : Json → Option α) (absent : α) : Option α :=
  match r.lookup name with
  | some j => value j
  | none => some absent

/-- The field when it is neither missing nor null. -/
def optional (r : Record) (name : String) (value : Json → Option α) : Option (Option α) :=
  r.withDefault name (nullable? value) none

end Record

/-- A text or null. -/
def ofOption {α : Type} (value : α → Json) : Option α → Json
  | some a => value a
  | none => null

/-- A field that is written only when it is present. -/
def field? {α : Type} (name : String) (value : α → Json) : Option α → List (String × Json)
  | some a => [(name, value a)]
  | none => []

def ofList {α : Type} (item : α → Json) (xs : List α) : Json := array (xs.map item)

def ofMap {α : Type} (value : α → Json) (m : SortedMap α) : Json :=
  object (m.entries.map fun e => (e.1, value e.2))

/-- A decimal as a text with all its places. -/
def ofDecimalText (d : Decimal) : Json := string d.toText

end CostJournal.Json
