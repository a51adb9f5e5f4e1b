import CostJournal.FileTree
import CostJournal.SortedMap
import CostJournal.Text.Alphanumeric
import CostJournal.Text.Blank
import CostJournal.Text.Digits
import CostJournal.Text.Split

/-!
# Environment files

A file of assignments `NAME=value` that fills up an environment. Values may be quoted, go on over
several lines between quotes, and name other variables after a `$`. What is set already stays, and
the first malformed line ends the file.
-/

namespace CostJournal

/-- Variables and their values. -/
abbrev Environment := SortedMap String

namespace EnvironmentFile

/-- Where in a line a reader for ends of assignments is. -/
inductive LineMode where
  | plain
  | blank
  | escaped
  | single
  | singleEscaped
  | double
  | doubleEscaped
  | comment
deriving DecidableEq

def isLineEnd (c : Char) : Bool := c == '\n' || c == '\r'

def LineMode.step : LineMode → Char → LineMode
  | plain, c =>
    if c == '\\' then escaped else if c == '"' then double else if c == '\'' then single
    else if isBlank c && !isLineEnd c then blank else plain
  | blank, c =>
    if c == '#' then comment else if c == '\\' then escaped else if c == '"' then double
    else if c == '\'' then single else plain
  | escaped, _ => plain
  | single, c => if c == '\\' then singleEscaped else if c == '\'' then plain else single
  | singleEscaped, _ => single
  | double, c => if c == '\\' then doubleEscaped else if c == '"' then plain else double
  | doubleEscaped, _ => double
  | comment, _ => comment

/-- The mode after a line, and the line up to a comment. -/
def scanLine (mode : LineMode) : List Char → LineMode × List Char
  | [] => (mode, [])
  | c :: cs =>
    let next := mode.step c
    if next = .comment then (.comment, [])
    else
      let (last, kept) := scanLine next cs
      (last, c :: kept)

/-- Lines with their ends. -/
def physicalLines (cs : List Char) : List (List Char) :=
  let pieces := splitAtMark '\n' cs
  pieces.dropLast.map (· ++ ['\n']) ++ (pieces.getLast?.filter (!·.isEmpty)).toList

def dropLineEnd (cs : List Char) : List Char :=
  match cs.reverse with
  | '\n' :: '\r' :: rest => rest.reverse
  | '\n' :: rest => rest.reverse
  | _ => cs

/-- Lines that belong together, joined while an assignment goes on; `none` for an assignment that the
file does not end. Comments are left out. -/
def logicalLines (pending : List Char) (mode : LineMode) :
    List (List Char) → List (Option (List Char))
  | [] => if mode = .plain then [] else [none]
  | line :: lines =>
    let whole := pending ++ line
    if (trimLeft whole).head? == some '#' then logicalLines [] .plain lines
    else match scanLine mode line with
      | (.plain, _) => some (dropLineEnd whole) :: logicalLines [] .plain lines
      | (.comment, kept) => some (pending ++ kept) :: logicalLines [] .plain lines
      | (mode, _) => logicalLines whole mode lines

/-- Where in a value its reader is; `quoted` says that it is between double quotes. -/
inductive ValueMode where
  | plain
  | double
  | single
  | escaped (quoted : Bool)
  | name (quoted : Bool) (cs : List Char)
  | braced (quoted : Bool) (cs : List Char)
  /-- After the value only blanks follow, or a comment. -/
  | blank
  | comment
  | malformed
deriving DecidableEq

def valueOf (e : Environment) (name : List Char) : List Char :=
  ((e.get? (String.ofList name)).getD "").toList

def textMode (quoted : Bool) : ValueMode := if quoted then .double else .plain

/-- The value read so far and the mode, after one more character. -/
def stepValue (e : Environment) : List Char × ValueMode → Char → List Char × ValueMode
  | (done, .plain), c =>
    if c == '$' then (done, .name false [])
    else if c == '\'' then (done, .single)
    else if c == '"' then (done, .double)
    else if c == '\\' then (done, .escaped false)
    else if c == ' ' || c == '\t' then (done, .blank)
    else (done ++ [c], .plain)
  | (done, .double), c =>
    if c == '$' then (done, .name true [])
    else if c == '"' then (done, .plain)
    else if c == '\\' then (done, .escaped true)
    else (done ++ [c], .double)
  | (done, .single), c => if c == '\'' then (done, .plain) else (done ++ [c], .single)
  | (done, .escaped quoted), c =>
    if c == 'n' then (done ++ ['\n'], textMode quoted)
    else if "\\'\"$ ".toList.contains c then (done ++ [c], textMode quoted)
    else (done, .malformed)
  | (done, .name quoted cs), c =>
    if isAlphanumeric c then (done, .name quoted (cs ++ [c]))
    else if c == '{' && cs.isEmpty then (done, .braced quoted [])
    else if c == '$' then (done ++ valueOf e cs, .name quoted [])
    else (done ++ valueOf e cs ++ [c], textMode quoted)
  | (done, .braced quoted cs), c =>
    if c == '}' then (done ++ valueOf e cs, textMode quoted) else (done, .braced quoted (cs ++ [c]))
  | (done, .blank), c =>
    if c == ' ' || c == '\t' then (done, .blank)
    else if c == '#' then (done, .comment)
    else (done, .malformed)
  | (done, .comment), _ => (done, .comment)
  | (done, .malformed), _ => (done, .malformed)

/-- The value that a text stands for. -/
def value? (e : Environment) (cs : List Char) : Option (List Char) :=
  match cs.foldl (stepValue e) ([], .plain) with
  | (done, .name false name) => some (done ++ valueOf e name)
  | (done, .plain) | (done, .escaped false) | (done, .blank) | (done, .comment) => some done
  | _ => none

/-- A name, and the rest after blanks. -/
def cutName? (cs : List Char) : Option (List Char × List Char) :=
  match cs with
  | c :: _ =>
    if c.isAlpha || c == '_' then
      let (name, rest) := cs.span fun c => c.isAlphanum || c == '_' || c == '.'
      some (name, trimLeft rest)
    else none
  | [] => none

/-- A name with an equals sign after it, perhaps after the word `export`. -/
def cutTarget? (cs : List Char) : Option (List Char × List Char) := do
  match ← cutName? cs with
  | (name, '=' :: rest) => some (name, rest)
  | (name, rest) =>
    if name == "export".toList then
      match ← cutName? rest with
      | (name, '=' :: rest) => some (name, rest)
      | _ => none
    else none

/-- What a line assigns, if it is no comment; `none` if it is malformed. -/
def assignment? (e : Environment) (line : List Char) : Option (Option (String × String)) := do
  let cs := trimBlanks line
  if cs.isEmpty || cs.head? == some '#' then return none
  let (name, rest) ← cutTarget? cs
  let rest := trimLeft rest
  let value ← if rest.isEmpty || rest.head? == some '#' then some [] else value? e rest
  return some (String.ofList name, String.ofList value)

/-- Fills up an environment line by line. -/
def fill (e : Environment) : List (Option (List Char)) → Environment
  | [] => e
  | none :: _ => e
  | some line :: lines =>
    match assignment? e line with
    | none => e
    | some none => fill e lines
    | some (some (name, value)) =>
      fill (if (e.get? name).isSome then e else e.insert name value) lines

def name : String := ".env"

end EnvironmentFile

/-- The environment filled up from the environment file of a directory, if there is one. -/
def Environment.filled (e : Environment) (tree : FileTree) : Environment :=
  match tree.lookup EnvironmentFile.name with
  | .file text =>
    let cs := match text.toList with
      | '\uFEFF' :: cs => cs
      | cs => cs
    EnvironmentFile.fill e (EnvironmentFile.logicalLines [] .plain (EnvironmentFile.physicalLines cs))
  | _ => e

end CostJournal
