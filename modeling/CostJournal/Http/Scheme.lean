/-!
# Schemes

The word before the first colon of a URL, which says how the rest is read.
-/

namespace CostJournal

/-- How the rest of a URL is read. -/
inductive SchemeKind where
  /-- It starts with an authority that has a host. -/
  | web
  | file
  | other
deriving DecidableEq

namespace SchemeKind

def ofName (scheme : String) : SchemeKind :=
  if ["http", "https", "ws", "wss", "ftp"].contains scheme then web
  else if scheme = "file" then file
  else other

/-- Backslashes are slashes in URLs of the web and of files. -/
def isSlash (k : SchemeKind) (c : Char) : Bool := c == '/' || (k != .other && c == '\\')

end SchemeKind

namespace Scheme

def isChar (c : Char) : Bool := c.isAlphanum || c == '+' || c == '-' || c == '.'

/-- The scheme in lower case, and what follows its colon. -/
def cut? (cs : List Char) : Option (String × List Char) :=
  let (scheme, rest) := cs.span isChar
  match scheme, rest with
  | first :: _, ':' :: rest =>
    if first.isAlpha then some (String.ofList (scheme.map Char.toLower), rest) else none
  | _, _ => none

/-- The port that is meant when none is named. -/
def defaultPort? (scheme : String) : Option Nat :=
  [("http", 80), ("https", 443), ("ws", 80), ("wss", 443), ("ftp", 21)].lookup scheme

end Scheme

end CostJournal
