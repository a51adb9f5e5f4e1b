import CostJournal.Http.Url
import CostJournal.SortedMap
import CostJournal.Text.Blank

/-!
# Proxies

A proxy is asked for whole URLs. Which requests go to one, variables say (`Proxies.ofVariables`): all
but those to hosts that are excepted, by address, by network or by domain.
-/

namespace CostJournal

/-- What an exception from the use of a proxy covers. -/
inductive ProxyException where
  /-- The addresses of so many bits whose first ones are these. -/
  | network (bits : Nat) (shared : Nat) (address : Nat)
  /-- A domain, and the domains below it. -/
  | domain (name : List Char)
deriving DecidableEq

/-- How many bits the addresses of a host have, and its address. -/
def Host.address? : Host → Option (Nat × Nat)
  | .number n => some (32, n)
  | .groups gs => some (128, gs.foldl (fun n g => twoPow 16 * n + g) 0)
  | .name _ => none

namespace ProxyException

/-- A number up to 255 of at most three digits. -/
def octet? (cs : List Char) : Option Nat :=
  if 3 < cs.length then none else (natOfDigits? cs).filter (· ≤ 255)

/-- An address, as its bits and its number; in networks numbers may have leading zeros. -/
def address? (octet? : List Char → Option Nat) (cs : List Char) : Option (Nat × Nat) :=
  match (splitAtMark '.' cs).mapM octet? with
  | some [a, b, c, d] => some (32, Host.ofBytes [a, b, c, d])
  | _ => (Host.groupAddress? cs).bind fun gs => (Host.groups gs).address?

/-- An address, and how many of its first bits the network shares. -/
def network? (cs : List Char) : Option ProxyException :=
  let (front, rest) := cs.span (· != '/')
  match rest with
  | _ :: ds => do
    let (bits, n) ← address? octet? front
    let shared ← natOfDigits? ds
    if shared ≤ bits && ds.length ≤ (digits bits).length then return network bits shared n else none
  | [] => (address? Host.octet? cs).map fun (bits, n) => network bits bits n

def ofChars (cs : List Char) : ProxyException := (network? cs).getD (domain cs)

/-- A domain that an exception names, with or without a point before it, and a domain that ends so
after a point. -/
def coversDomain (name host : List Char) : Bool :=
  host == name || '.' :: host == name
    || (if name.isSuffixOf host then
        name.head? == some '.' || (host.take (host.length - name.length)).getLast? == some '.'
      else name == ['*'])

def covers (e : ProxyException) (h : Host) : Bool :=
  match e, h with
  | domain name, .name host => coversDomain name host
  | network bits shared n, h =>
    match h.address? with
    | some (ofHost, m) => ofHost == bits && m / twoPow (bits - shared) == n / twoPow (bits - shared)
    | none => false
  | _, _ => false

end ProxyException

/-- Whether there is a proxy for unencrypted requests, and which hosts are reached without it. -/
structure Proxies where
  inUse : Bool := false
  exceptions : List ProxyException := []

namespace Proxies

/-- A text names a proxy if it is a URL of the web's, perhaps without its scheme. -/
def isProxy (s : String) : Bool :=
  match Url.ofText? s with
  | some u => if u.host?.isSome then u.isHttp else isHost
  | none => (Scheme.cut? (Url.cleaned s)).isNone && isHost
where
  isHost : Bool := (Url.ofText? ("http://" ++ s)).isSome

/-- The value of the first variable that names a proxy. -/
def named (get? : String → Option String) (names : List String) : Bool :=
  names.any fun name => (get? name).any isProxy

/-- The exceptions in a list with commas. -/
def exceptionsOf (s : String) : List ProxyException :=
  if s.isEmpty then []
  else (splitAtMark ',' s.toList).map fun cs => .ofChars (trimBlanks cs)

/-- What the variables of an environment say. A program that answers a request itself does not listen
to the variables that such a request could set. -/
def ofVariables (get? : String → Option String) : Proxies where
  inUse := named get? ["ALL_PROXY", "all_proxy"] ||
    ((get? "REQUEST_METHOD").isNone && named get? ["HTTP_PROXY", "http_proxy"])
  exceptions := exceptionsOf (((get? "NO_PROXY").or (get? "no_proxy")).getD "")

/-- What a request for a URL asks the server for that it goes to. -/
def target (p : Proxies) (u : Url) : String :=
  match u.host? with
  | some h =>
    if p.inUse && u.scheme == "http" && !p.exceptions.any (·.covers h) then u.absoluteTarget
    else u.target
  | none => u.target

end Proxies

end CostJournal
