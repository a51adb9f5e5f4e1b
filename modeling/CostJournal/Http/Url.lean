import CostJournal.Http.Authority
import CostJournal.Http.Path

/-!
# URLs

Which texts are absolute URLs (`Url.ofText?`), and what a request for one asks its server for
(`Url.target`). A text is a URL when it has a scheme and, after two slashes, a valid authority; URLs
of the web always have one, with or without the slashes.
-/

namespace CostJournal

structure Url where
  /-- What was read. -/
  text : String
  scheme : String
  authority : Option Authority
  /-- The path and the query as a request names them. -/
  target : String
deriving DecidableEq

namespace Url

def isHttp (u : Url) : Bool := u.scheme == "http" || u.scheme == "https"

/-- Without spaces and control characters at the ends, and without tabs and line ends. -/
def cleaned (s : String) : List Char :=
  let atEnd (c : Char) := c.toNat ≤ 0x20
  let cs := ((s.toList.dropWhile atEnd).reverse.dropWhile atEnd).reverse
  cs.filter fun c => c != '\t' && c != '\n' && c != '\r'

/-- A letter and a colon or a bar, which a file URL may have for a host. -/
def isDriveLetter : List Char → Bool
  | [c, d] => c.isAlpha && (d == ':' || d == '|')
  | _ => false

/-- The host of a file, if there is one other than this one. -/
def fileAuthority? (cs : List Char) : Option (Option Authority) :=
  if cs.isEmpty || isDriveLetter cs then some none
  else (Host.ofText? cs).map fun host =>
    if host = .name "localhost".toList then none else some { host }

/-- The two slashes that an authority follows, for schemes that do not always have one. -/
def dropTwoSlashes? (k : SchemeKind) : List Char → Option (List Char)
  | a :: b :: rest => if k.isSlash a && k.isSlash b then some rest else none
  | _ => none

/-- Reads an absolute URL. -/
def ofText? (s : String) : Option Url := do
  let (scheme, rest) ← Scheme.cut? (cleaned s)
  let k := SchemeKind.ofName scheme
  let url (authority : Option Authority) (path : List Char) : Url :=
    ⟨s, scheme, authority, String.ofList (Target.ofText k path)⟩
  let isEnd (c : Char) := k.isSlash c || c == '?' || c == '#'
  let afterSlashes? := match k with
    | .web => some (rest.dropWhile k.isSlash)
    | _ => dropTwoSlashes? k rest
  match afterSlashes? with
  | none => return url none rest
  | some cs =>
    let (authority, path) := cs.span (!isEnd ·)
    match k with
    | .file => return url (← fileAuthority? authority) path
    | _ =>
      if authority == ['@'] && !path.isEmpty then none
      else return url (← Authority.ofText? scheme authority) path

def host? (u : Url) : Option Host := (u.authority.map (·.host)).filter (· != .name [])

/-- The whole URL as a proxy is asked for it, without its user. -/
def absoluteTarget (u : Url) : String :=
  match u.authority with
  | some a => u.scheme ++ "://" ++ String.ofList a.address ++ u.target
  | none => u.target

/-- The header for the user that the URL names. -/
def credentials? (u : Url) : Option String := u.authority.bind Authority.credentials?

end Url

end CostJournal
