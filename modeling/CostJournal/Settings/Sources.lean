import CostJournal.Json.Reader
import CostJournal.Notice
import CostJournal.Settings.Basic
import CostJournal.Settings.EnvironmentFile

/-!
# Sources of settings

Settings come from files and from environment variables. A later source overrides an earlier one name
by name (`Setting.assign`): the environment overrides files, and the file for a mode of operation the
file for all modes (`Settings.load`).
-/

namespace CostJournal

namespace Settings

/-- Settings with those of a source over them. -/
def override (fields : Fields) (base : Setting) : Setting :=
  fields.foldl (fun s f => Setting.assignPath f.2 (PathStep.ofText f.1) s) base

def defaults : Fields :=
  [("mpt.timeout_secs", .integer 30), ("mpt.page_size", .integer 100),
    ("billing.tolerance_rate", .integer 1), ("billing.segment", .text "COM"),
    ("log.level", .text "info"), ("log.json", .flag false)]

/-- What the extension of a file says of its text. -/
inductive FileFormat where
  /-- JSON, or a format that JSON texts are texts of. -/
  | json
  /-- Lines of assignments, in which no JSON text names a setting. -/
  | assignments
  /-- A format of which no JSON text is one. -/
  | tables
deriving DecidableEq

def extensions : List (String × FileFormat) :=
  [("json", .json), ("json5", .json), ("yaml", .json), ("yml", .json), ("ron", .json),
    ("ini", .assignments), ("toml", .tables)]

/-- A path as far as the last name in it: slashes at its end, and points for the same directory, lead
nowhere. -/
def trimmed (path : List Char) : List Char :=
  let isTail (piece : List Char) := piece.isEmpty || piece == ['.']
  match (splitAtMark '/' path).reverse with
  | last :: before =>
    joinWith '/' (last :: before |>.dropWhile isTail).reverse
  | [] => []

/-- The last name in a path; where a path ends by leading upwards, there is none. -/
def lastName? (path : List Char) : Option (List Char) :=
  (splitAtMark '/' (trimmed path)).getLast?.filter fun name => !name.isEmpty && name != "..".toList

/-- The extension of the file of that path, after the last point that does not start its name. -/
def extension? (path : String) : Option String := do
  let name ← lastName? path.toList
  let after := (name.reverse.takeWhile (· != '.')).reverse
  if after.length + 1 < name.length then some (String.ofList after) else none

/-- Where a file of settings may be that is not under its name: with an extension after it. -/
def extended (name : String) : List String :=
  match lastName? name.toList with
  | some _ => extensions.map fun e => String.ofList (trimmed name.toList) ++ "." ++ e.1
  | none => []

def candidates (name : String) : List String := name :: extended name

/-- The format and the text of the first candidate that is a file. One without a known extension hides
the others. -/
def findFile? (tree : FileTree) (name : String) : Option (FileFormat × String) := do
  let (path, text) ← (candidates name).findSome? fun path =>
    match tree.lookup path with
    | .file text => some (path, text)
    | _ => none
  return (← extensions.lookup (← extension? path), text)

/-- The fields in the text of a file. -/
def fieldsOf (format : FileFormat) (text : String) : Except SettingsFailure Fields :=
  match format with
  | .assignments => .ok []
  | .tables => .error .unreadable
  | .json =>
    match (Json.ofText? text).filter Json.isValue with
    | some (.object fields) => .ok (Setting.ofJson (Json.object fields).withLastFields).fields
    | _ => .error .unreadable

/-- The fields of a file that may be missing. -/
def optionalFile (tree : FileTree) (name : String) : Except SettingsFailure Fields :=
  match findFile? tree name with
  | some (format, text) => fieldsOf format text
  | none => .ok []

/-- Two underscores are a point. -/
def pointed : List Char → List Char
  | '_' :: '_' :: cs => '.' :: pointed cs
  | c :: cs => c :: pointed cs
  | [] => []

def variablePrefix : List Char := "aws_billing__".toList

/-- The path of the setting that a variable is for, in any case. -/
def pathOfVariable? (name : String) : Option String :=
  let cs := name.toList.map PathStep.lowered
  if variablePrefix.isPrefixOf cs then
    some (String.ofList (pointed (cs.drop variablePrefix.length)))
  else none

/-- The settings in the environment; `value` reads each from its path and its text. -/
def ofVariables (value : String → String → Setting) (e : Environment) : Fields :=
  e.entries.filterMap fun v => (pathOfVariable? v.1).map fun path => (path, value path v.2)

/-- The setting whose values are lists, in a variable divided by commas. -/
def listPath : String := "billing.product_ids"

/-- A truth value, an integer, another number, a list where one is expected, or else a text. -/
def parsed (path text : String) : Setting :=
  let word := String.ofList (text.toList.map Char.toLower)
  if word = "true" then .flag true
  else if word = "false" then .flag false
  else match int64? text with
    | some n => .integer n
    | none =>
      match FloatValue.ofText? text with
      | some x => .float x
      | none =>
        if path = listPath then .list ((splitText ',' text).map .text) else .text text

/-- The files for all modes and for the one that the environment names. -/
def modeFiles (e : Environment) : List String :=
  ["config/default", "config/" ++ (e.get? "RUN_MODE").getD "development"]

/-- The settings in the files of a directory and in the environment. -/
def load (tree : FileTree) (e : Environment) : Except SettingsFailure Settings := do
  let e := e.filled tree
  let files ← (modeFiles e).mapM (optionalFile tree)
  read (override (ofVariables parsed e) (files.foldl (fun s fs => override fs s) (override defaults (.table []))))

/-- The settings in one file, and in the environment as texts. -/
def ofFile (tree : FileTree) (e : Environment) (name : String) : Except SettingsFailure Settings := do
  let some (format, text) := findFile? tree name | throw .unreadable
  read (override (ofVariables (fun _ text => .text text) e)
    (override (← fieldsOf format text) (.table [])))

end Settings

end CostJournal
