import CostJournal.Http.Scheme
import CostJournal.Text.Percent
import CostJournal.Text.Split

/-!
# Paths and queries

What a request names of a URL: a path from the root, with its dots resolved, and a query.
-/

namespace CostJournal.Target

/-- The characters that are encoded in paths, and in queries. -/
def pathSet : List Char := " \"#<>?\x60\x7b\x7d".toList

def querySet : List Char := " \"#<>'".toList

def isDot (segment : List Char) : Bool := [".", "%2e"].contains (String.ofList (segment.map Char.toLower))

def isDoubleDot (segment : List Char) : Bool :=
  ["..", ".%2e", "%2e.", "%2e%2e"].contains (String.ofList (segment.map Char.toLower))

/-- Adds segments to those before them, the nearest first. A dot is no segment and a double dot takes
one back; at the end of a path each leaves an empty segment. -/
def addSegments (before : List (List Char)) : List (List Char) → List (List Char)
  | [] => before
  | segment :: segments =>
    let close (kept : List (List Char)) := if segments.isEmpty then [] :: kept else kept
    let next :=
      if isDoubleDot segment then close before.tail
      else if isDot segment then close before
      else percentEncode pathSet segment :: before
    addSegments next segments

/-- A path from the root, with its dots resolved. -/
def pathOf (k : SchemeKind) (cs : List Char) : List Char :=
  let relative := match cs with
    | c :: rest => if k.isSlash c then rest else cs
    | [] => []
  (addSegments [] (splitAtMarks k.isSlash relative)).reverse.flatMap ('/' :: ·)

/-- A path and a query; what follows a `#` stays with the client. -/
def ofText (k : SchemeKind) (cs : List Char) : List Char :=
  let (path, query) := (cs.takeWhile (· != '#')).span (· != '?')
  pathOf k path ++
    match query with
    | _ :: q => '?' :: percentEncode querySet q
    | [] => []

end CostJournal.Target
