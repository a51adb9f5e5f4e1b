import CostJournal.Json.Basic

/-!
# Reading JSON

`Json.ofText?` reads exactly the well-formed texts. It keeps every field and every numeral, so what
to make of repeated names and of numbers out of range is left to the reader of the value.
-/

namespace CostJournal.Json

def isJsonBlank (c : Char) : Bool := c == ' ' || c == '\t' || c == '\n' || c == '\r'

def skipBlanks (cs : List Char) : List Char := cs.dropWhile isJsonBlank

/-- The value of a hexadecimal digit. -/
def hexValue? (c : Char) : Option Nat :=
  if '0' ≤ c ∧ c ≤ '9' then some (c.toNat - '0'.toNat)
  else if 'a' ≤ c ∧ c ≤ 'f' then some (c.toNat - 'a'.toNat + 10)
  else if 'A' ≤ c ∧ c ≤ 'F' then some (c.toNat - 'A'.toNat + 10)
  else none

/-- The value of four hexadecimal digits. -/
def hex4? (a b c d : Char) : Option Nat := do
  return (((← hexValue? a) * 16 + (← hexValue? b)) * 16 + (← hexValue? c)) * 16 + (← hexValue? d)

def isHighHalf (n : Nat) : Bool := 0xD800 ≤ n && n < 0xDC00

def isLowHalf (n : Nat) : Bool := 0xDC00 ≤ n && n < 0xE000

/-- The character of a surrogate pair. -/
def joinHalves (high low : Nat) : Char :=
  Char.ofNat (0x10000 + (high - 0xD800) * 0x400 + (low - 0xDC00))

/-- What a one-letter escape stands for. -/
def simpleEscape? (c : Char) : Option Char :=
  if c = '"' ∨ c = '\\' ∨ c = '/' then some c
  else if c = 'b' then some '\x08'
  else if c = 'f' then some '\x0c'
  else if c = 'n' then some '\n'
  else if c = 'r' then some '\r'
  else if c = 't' then some '\t'
  else none

/-- The escaped lower half at the start of a text, and the rest after it. -/
def lowHalf? : (cs : List Char) → Option (Nat × { rest : List Char // rest.length < cs.length })
  | '\\' :: 'u' :: a :: b :: c :: d :: rest =>
    match hex4? a b c d with
    | some n =>
      if isLowHalf n then some (n, ⟨rest, by simp only [List.length_cons]; omega⟩) else none
    | none => none
  | _ => none

/-- Reads the characters of a string up to its closing quote: `done` holds them in reverse, and
`whole` says that no half of a surrogate pair was among them. -/
def readString (done : List Char) (whole : Bool) : List Char → Option (Option String × List Char)
  | [] => none
  | '"' :: rest => some (if whole then some (String.ofList done.reverse) else none, rest)
  | '\\' :: 'u' :: a :: b :: c :: d :: rest =>
    match hex4? a b c d with
    | none => none
    | some n =>
      if isHighHalf n then
        match lowHalf? rest with
        | some (m, ⟨rest', _⟩) => readString (joinHalves n m :: done) whole rest'
        | none => readString done false rest
      else if isLowHalf n then readString done false rest
      else readString (Char.ofNat n :: done) whole rest
  | '\\' :: c :: rest =>
    match simpleEscape? c with
    | none => none
    | some r => readString (r :: done) whole rest
  | c :: rest => if c.toNat < 0x20 ∨ c = '\\' then none else readString (c :: done) whole rest
termination_by cs => cs.length
decreasing_by all_goals (simp only [List.length_cons]; omega)

/-- The digits at the start of a text; there is at least one. -/
def takeNumber? (cs : List Char) : Option (List Char × List Char) :=
  match cs.span Char.isDigit with
  | ([], _) => none
  | p => some p

/-- A whole part: a zero, or digits that start with another one. -/
def readWhole : List Char → Option (List Char × List Char)
  | '0' :: rest => some (['0'], rest)
  | cs => takeNumber? cs

/-- A point and digits, or nothing. -/
def readFraction : List Char → Option (List Char × List Char)
  | '.' :: rest => (takeNumber? rest).map fun p => ('.' :: p.1, p.2)
  | cs => some ([], cs)

/-- An exponent, or nothing. -/
def readExponent : List Char → Option (List Char × List Char)
  | c :: rest =>
    if c = 'e' ∨ c = 'E' then
      match rest with
      | '+' :: ds => (takeNumber? ds).map fun p => (c :: '+' :: p.1, p.2)
      | '-' :: ds => (takeNumber? ds).map fun p => (c :: '-' :: p.1, p.2)
      | ds => (takeNumber? ds).map fun p => (c :: p.1, p.2)
    else some ([], c :: rest)
  | [] => some ([], [])

def readNumber (cs : List Char) : Option (Json × List Char) := do
  let (sign, cs) := match cs with
    | '-' :: rest => (['-'], rest)
    | _ => ([], cs)
  let (whole, cs) ← readWhole cs
  let (fraction, cs) ← readFraction cs
  let (exponent, cs) ← readExponent cs
  return (.number (String.ofList (sign ++ whole ++ fraction ++ exponent)), cs)

/-- An object, unless one of its names is no text. -/
def objectOf (fields : List (Option String × Json)) : Json :=
  match fields.mapM fun f => f.1.map (·, f.2) with
  | some fs => .object fs
  | none => .unreadable

mutual

/-- Reads one value, blanks before it included. Each step that calls another takes one from the
fuel; no text needs more than twice its length and one. -/
def readValue : (fuel : Nat) → List Char → Option (Json × List Char)
  | 0, _ => none
  | fuel + 1, cs =>
    match skipBlanks cs with
    | 'n' :: 'u' :: 'l' :: 'l' :: rest => some (.null, rest)
    | 't' :: 'r' :: 'u' :: 'e' :: rest => some (.bool true, rest)
    | 'f' :: 'a' :: 'l' :: 's' :: 'e' :: rest => some (.bool false, rest)
    | '"' :: rest => (readString [] true rest).map fun p =>
        (match p.1 with | some s => .string s | none => .unreadable, p.2)
    | '[' :: rest =>
      match skipBlanks rest with
      | ']' :: rest => some (.array [], rest)
      | rest => readItems fuel [] rest
    | '{' :: rest =>
      match skipBlanks rest with
      | '}' :: rest => some (.object [], rest)
      | rest => readFields fuel [] rest
    | rest => readNumber rest

/-- Reads items up to the closing bracket; `done` holds the earlier ones in reverse. -/
def readItems : (fuel : Nat) → List Json → List Char → Option (Json × List Char)
  | 0, _, _ => none
  | fuel + 1, done, cs =>
    match readValue fuel cs with
    | none => none
    | some (j, rest) =>
      match skipBlanks rest with
      | ',' :: rest => readItems fuel (j :: done) rest
      | ']' :: rest => some (.array (j :: done).reverse, rest)
      | _ => none

/-- Reads fields up to the closing brace; `done` holds the earlier ones in reverse. -/
def readFields : (fuel : Nat) → List (Option String × Json) → List Char →
    Option (Json × List Char)
  | 0, _, _ => none
  | fuel + 1, done, cs =>
    match skipBlanks cs with
    | '"' :: rest =>
      match readString [] true rest with
      | none => none
      | some (name, rest) =>
        match skipBlanks rest with
        | ':' :: rest =>
          match readValue fuel rest with
          | none => none
          | some (j, rest) =>
            match skipBlanks rest with
            | ',' :: rest => readFields fuel ((name, j) :: done) rest
            | '}' :: rest => some (objectOf ((name, j) :: done).reverse, rest)
            | _ => none
        | _ => none
    | _ => none

end

def ofChars? (cs : List Char) : Option Json :=
  match readValue (2 * cs.length + 2) cs with
  | some (j, rest) => if (skipBlanks rest).isEmpty then some j else none
  | none => none

/-- The value of a well-formed text. -/
def ofText? (text : String) : Option Json := ofChars? text.toList

/-- What is said of a text that is not the JSON it should be. -/
def unreadableText : String := "<json error>"

end CostJournal.Json
