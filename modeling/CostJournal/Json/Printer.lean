import CostJournal.Json.Basic

/-!
# Writing JSON

`Json.render` writes a value without blanks, `Json.pretty` with an indent of two. Only quotes,
backslashes and control characters are escaped; every other character stands for itself.
-/

namespace CostJournal.Json

/-- The character of a lower-case hexadecimal digit. -/
def hexDigit (n : Nat) : Char := if n < 10 then digitChar n else Char.ofNat ('a'.toNat + (n - 10))

def escapeChar (c : Char) : List Char :=
  if c = '"' then ['\\', '"']
  else if c = '\\' then ['\\', '\\']
  else if c = '\x08' then ['\\', 'b']
  else if c = '\x0c' then ['\\', 'f']
  else if c = '\n' then ['\\', 'n']
  else if c = '\r' then ['\\', 'r']
  else if c = '\t' then ['\\', 't']
  else if c.toNat < 0x20 then ['\\', 'u', '0', '0', hexDigit (c.toNat / 16), hexDigit (c.toNat % 16)]
  else [c]

/-- A text between quotes. -/
def quoted (s : String) : List Char := '"' :: s.toList.flatMap escapeChar ++ ['"']

mutual

/-- The compact text of a value. -/
def renderChars : Json → List Char
  | null => ['n', 'u', 'l', 'l']
  | bool true => ['t', 'r', 'u', 'e']
  | bool false => ['f', 'a', 'l', 's', 'e']
  | number text => text.toList
  | string s => quoted s
  | array items => '[' :: renderItems items
  | object fields => '{' :: renderFields fields
  | unreadable => ['n', 'u', 'l', 'l']
termination_by structural j => j

/-- The items and the bracket that ends them. -/
def renderItems : List Json → List Char
  | [] => [']']
  | j :: rest => renderChars j ++ renderMoreItems rest
termination_by structural js => js

def renderMoreItems : List Json → List Char
  | [] => [']']
  | j :: rest => ',' :: renderChars j ++ renderMoreItems rest
termination_by structural js => js

/-- The fields and the brace that ends them. -/
def renderFields : List (String × Json) → List Char
  | [] => ['}']
  | f :: rest => renderField f ++ renderMoreFields rest
termination_by structural fs => fs

def renderMoreFields : List (String × Json) → List Char
  | [] => ['}']
  | f :: rest => ',' :: renderField f ++ renderMoreFields rest
termination_by structural fs => fs

def renderField : String × Json → List Char
  | (name, v) => quoted name ++ ':' :: renderChars v
termination_by structural f => f

end

def render (j : Json) : String := String.ofList j.renderChars

/-- A line break and the indent of a level. -/
def newLine (level : Nat) : List Char := '\n' :: List.replicate (2 * level) ' '

mutual

/-- The text of a value with a line for each item and field; `level` is that of its closing mark. -/
def prettyChars (level : Nat) : Json → List Char
  | array [] => ['[', ']']
  | array (j :: rest) =>
    '[' :: newLine (level + 1) ++ prettyChars (level + 1) j ++ prettyItems level rest
  | object [] => ['{', '}']
  | object (f :: rest) =>
    '{' :: newLine (level + 1) ++ prettyField (level + 1) f ++ prettyFields level rest
  | null => ['n', 'u', 'l', 'l']
  | bool true => ['t', 'r', 'u', 'e']
  | bool false => ['f', 'a', 'l', 's', 'e']
  | number text => text.toList
  | string s => quoted s
  | unreadable => ['n', 'u', 'l', 'l']
termination_by structural j => j

def prettyItems (level : Nat) : List Json → List Char
  | [] => newLine level ++ [']']
  | j :: rest => ',' :: newLine (level + 1) ++ prettyChars (level + 1) j ++ prettyItems level rest
termination_by structural js => js

def prettyFields (level : Nat) : List (String × Json) → List Char
  | [] => newLine level ++ ['}']
  | f :: rest => ',' :: newLine (level + 1) ++ prettyField (level + 1) f ++ prettyFields level rest
termination_by structural fs => fs

def prettyField (level : Nat) : String × Json → List Char
  | (name, v) => quoted name ++ ':' :: ' ' :: prettyChars level v
termination_by structural f => f

end

def pretty (j : Json) : String := String.ofList (j.prettyChars 0)

end CostJournal.Json
