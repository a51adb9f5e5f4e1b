import CostJournal.Text.Split

/-!
# File trees

Files by their paths, from a working directory or from the root. A path is walked part by part
(`FileTree.lookup`): whatever comes before a slash has to be a directory, also where the path turns
back from it.
-/

namespace CostJournal

/-- What a path leads to. -/
inductive FileEntry where
  | missing
  /-- A file stands where the path needs a directory. -/
  | blocked
  | directory
  | file (text : String)
deriving DecidableEq

/-- Files by path; a directory has no text. -/
structure FileTree where
  entries : List (String × Option String) := []

namespace FileTree

/-- The name of the root. -/
def root : String := "/"

/-- Where paths start that are written so. -/
def start (path : String) : List String := if path.toList.head? == some '/' then [root] else []

/-- One part of a path after others, the last one first; none for a path that leads out of the
tree. -/
def step? (done : List String) (part : String) : Option (List String) :=
  if part = "" ∨ part = "." then some done
  else if part = ".." then
    match done with
    | last :: rest => if last = root then some done else some rest
    | [] => none
  else some (part :: done)

/-- The parts of a path that lead somewhere, the last one first. -/
def parts? (path : String) : Option (List String) := (splitText '/' path).foldlM step? (start path)

/-- What stands at a place. -/
def entryAt (t : FileTree) (place : List String) : FileEntry :=
  let named := t.entries.filterMap fun e => (parts? e.1).map (·, e.2)
  match named.find? fun e => e.1 == place && e.2.isSome with
  | some (_, some text) => .file text
  | _ =>
    if place.isEmpty || place == [root] || named.any fun e => place.isSuffixOf e.1 then .directory
    else .missing

/-- What the parts of a path lead to from a place. -/
def walk (t : FileTree) (place : List String) : List String → FileEntry
  | [] => t.entryAt place
  | part :: parts =>
    match t.entryAt place with
    | .directory =>
      match step? place part with
      | some next => t.walk next parts
      | none => .missing
    | .file _ => .blocked
    | e => e

def lookup (t : FileTree) (path : String) : FileEntry := t.walk (start path) (splitText '/' path)

/-- The path of a name in a directory; a name from the root stays as it is. -/
def join (dir name : String) : String :=
  if name.toList.head? == some '/' then name
  else if dir.isEmpty || dir.toList.getLast? == some '/' then dir ++ name
  else dir ++ "/" ++ name

/-- The paths before the slashes of a path, which lead to directories if the path leads anywhere. -/
def above (path : String) : List String := (go [] path.toList).filter (!·.isEmpty)
where
  go (before : List Char) : List Char → List String
    | [] => []
    | c :: cs =>
      if c = '/' then String.ofList before.reverse :: go (c :: before) cs else go (c :: before) cs

end FileTree

end CostJournal
