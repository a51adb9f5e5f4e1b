import CostJournal.Http.Host
import CostJournal.Http.Scheme
import CostJournal.Text.Base64

/-!
# Authorities

Whom a URL leads to: a host, perhaps a user before it and a port after it (`Authority.ofText?`). A
user becomes a header of the request (`Authority.credentials?`).
-/

namespace CostJournal

structure Authority where
  /-- As it is written, before a colon. -/
  user : List Char := []
  /-- As it is written, after the colon; never empty. -/
  password : Option (List Char) := none
  host : Host
  /-- Absent if it is the scheme's own. -/
  port : Option Nat := none
deriving DecidableEq

namespace Authority

/-- The text after the last `@`, and the text before it. -/
def cutUser (cs : List Char) : Option (List Char) × List Char :=
  let rest := (cs.reverse.takeWhile (· != '@')).reverse
  (if cs.contains '@' then some (cs.take (cs.length - rest.length - 1)) else none, rest)

/-- A user, and a password after the first colon. -/
def splitUser (cs : List Char) : List Char × Option (List Char) :=
  let (user, rest) := cs.span (· != ':')
  (user, some (rest.drop 1) |>.filter (!·.isEmpty))

/-- The host at the start of an authority, up to a colon, and the rest; brackets hide colons. -/
def cutHost (inBrackets : Bool) : List Char → List Char × List Char
  | [] => ([], [])
  | c :: cs =>
    if c == ':' && !inBrackets then ([], c :: cs)
    else
      let (host, rest) := cutHost (if c == '[' then true else if c == ']' then false else inBrackets) cs
      (c :: host, rest)

/-- What may follow a host: nothing, or a colon and a number below 2 ^ 16 that may be missing. Where a
backslash is no slash, all after one is left. -/
def port? : List Char → Option (Option Nat)
  | [] => some none
  | ':' :: cs =>
    let ds := cs.takeWhile (· != '\\')
    if ds.isEmpty then some none else ((natOfDigits? ds).filter (· < twoPow 16)).map some
  | _ => none

/-- Reads an authority, of a scheme of some kind. Only other schemes than the web's have authorities
without a host, and those have no user and no port. -/
def ofText? (scheme : String) (cs : List Char) : Option Authority := do
  let (before, rest) := cutUser cs
  let (user, password) := splitUser (before.getD [])
  let (hostText, ending) := cutHost false rest
  let port := (← port? ending).filter fun n => Scheme.defaultPort? scheme != some n
  match SchemeKind.ofName scheme with
  | .web => return { user, password, host := ← Host.ofText? hostText, port }
  | _ =>
    if hostText.isEmpty && (!ending.isEmpty || !user.isEmpty || password.isSome) then none
    else return { user, password, host := ← Host.ofPlainText? hostText, port }

/-- The text that encoded characters stand for. -/
def decoded? (cs : List Char) : Option String := String.fromUTF8? ⟨(percentDecode cs).toArray⟩

/-- The header for a user or a password. -/
def credentials? (a : Authority) : Option String := do
  let user ← decoded? a.user
  let password := a.password.bind decoded?
  if user.isEmpty && password.isNone then none
  else
    let text := user ++ ":" ++ password.getD ""
    return "Basic " ++ String.ofList (base64 text.toUTF8.toList)

/-- The host and the port. -/
def address (a : Authority) : List Char :=
  a.host.toChars ++ match a.port with
    | some n => ':' :: digits n
    | none => []

end Authority

end CostJournal
