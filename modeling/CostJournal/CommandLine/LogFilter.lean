import CostJournal.Text.Blank
import CostJournal.Text.Digits
import CostJournal.Text.Split
import CostJournal.Text.Alphanumeric

/-!
# Log filters

Which events a log shows. A filter is directives with commas between them, each with a level for the
events of a target, of a span or with a field; of the directives on an event the most specific one
decides (`LogFilter.enables`).
-/

namespace CostJournal

inductive LogLevel where
  | off
  | error
  | warn
  | info
  | debug
  | trace
deriving DecidableEq

namespace LogLevel

/-- All levels and their names; each shows what those before it show. -/
def named : List (String × LogLevel) :=
  [("off", off), ("error", error), ("warn", warn), ("info", info), ("debug", debug), ("trace", trace)]

/-- The number of a level. -/
def rank : LogLevel → Nat
  | off => 0
  | error => 1
  | warn => 2
  | info => 3
  | debug => 4
  | trace => 5

def ofRank? (n : Nat) : Option LogLevel := (named.map (·.2)).find? (·.rank == n)

/-- A level by its number or by its name, in any case. -/
def ofChars? (cs : List Char) : Option LogLevel :=
  let ds := match cs with
    | '+' :: ds => ds
    | ds => ds
  ((natOfDigits? ds).bind ofRank?).or (named.lookup (String.ofList (cs.map Char.toLower)))

/-- Events of a level are shown. -/
def shows (l event : LogLevel) : Bool := event.rank ≤ l.rank

end LogLevel

/-- Where an event is told, and what it tells. -/
structure LogSpan where
  target : String
  name : String
  fields : List String
deriving DecidableEq

/-- An event, in the spans that it is told in. -/
structure LogEvent where
  target : String
  level : LogLevel
  fields : List String
  spans : List LogSpan
deriving DecidableEq

/-- Shows events up to a level: all, or those that it names. -/
structure LogDirective where
  level : LogLevel := .trace
  /-- How the targets start. -/
  target : Option (List Char) := none
  span : Option (List Char) := none
  field : Option (List Char) := none
  /-- The field has to have some value. -/
  hasValue : Bool := false
deriving DecidableEq

namespace LogDirective

/-- Where in a directive its reader is; a number is the place where something starts. -/
inductive Mode where
  | start
  | levelOrTarget (start : Nat)
  | span (start : Nat)
  | field (start : Nat)
  | afterField
  | afterSpan
  | level (start : Nat)
deriving DecidableEq

/-- From a place on up to another one. -/
def slice (cs : List Char) (i j : Nat) : List Char := (cs.drop i).take (j - i)

/-- A field, perhaps with a value after an equals sign. -/
def withField? (d : LogDirective) (cs : List Char) : Option LogDirective :=
  let (name, rest) := cs.span (· != '=')
  if cs.isEmpty then none else some { d with field := some name, hasValue := !rest.isEmpty }

/-- One more character, at a place; `cs` is the text that names and levels are taken from. -/
def step? (cs : List Char) (d : LogDirective) (place : Nat) (c : Char) : Mode → Option (LogDirective × Mode)
  | .start =>
    if c = '[' then some (d, .span (place + 1))
    else if isAlphanumeric c || "-:_".toList.contains c then some (d, .levelOrTarget place)
    else none
  | .levelOrTarget i =>
    if c = '=' then some ({ d with target := some (slice cs i place) }, .level (place + 1))
    else if c = '[' then some ({ d with target := some (slice cs i place) }, .span (place + 1))
    else some (d, .levelOrTarget i)
  | .span i =>
    if c = ']' then some ({ d with span := some (slice cs i place) }, .afterSpan)
    else if c = '\x7b' then
      some ({ d with span := some (slice cs i place) |>.filter (!·.isEmpty) }, .field (place + 1))
    else some (d, .span i)
  | .field i =>
    if c = '\x7d' then (d.withField? (slice cs i place)).map (·, .afterField) else some (d, .field i)
  | .afterField => if c = ']' then some (d, .afterSpan) else none
  | .afterSpan =>
    if c = '=' then some (d, .level (place + 1))
    else if c = '[' then some (d, .span (place + 1))
    else none
  | .level i => some (d, .level i)

/-- The directive when its text ends. -/
def finish? (cs : List Char) (d : LogDirective) : Mode → Option LogDirective
  | .levelOrTarget i =>
    let word := cs.drop i
    match LogLevel.ofChars? word with
    | some level => some { d with level }
    | none => some { d with target := some word }
  | .level i =>
    let word := cs.drop i
    if word.isEmpty then some d else (LogLevel.ofChars? word).map fun level => { d with level }
  | .afterSpan => some d
  | _ => none

def read? (cs : List Char) (d : LogDirective) (mode : Mode) (place : Nat) :
    List Char → Option LogDirective
  | [] => finish? cs d mode
  | c :: rest =>
    match step? cs d place c mode with
    | some (d, mode) => read? cs d mode (place + 1) rest
    | none => none

/-- Reads a directive. Places are counted without the blanks before the text, but what stands there is
taken from the text with them. -/
def ofChars? (cs : List Char) : Option LogDirective := read? cs {} .start 0 (trimBlanks cs)

def isOnTarget (d : LogDirective) (target : String) : Bool :=
  d.target.all fun start => start.isPrefixOf target.toList

def isOnFields (d : LogDirective) (fields : List String) : Bool :=
  d.field.all fun name => fields.contains (String.ofList name)

/-- Whether a directive is on an event, whatever the spans are. -/
def isOnEvent (d : LogDirective) (e : LogEvent) : Bool :=
  d.span.isNone && !d.hasValue && d.isOnTarget e.target && d.isOnFields e.fields

/-- Whether a directive is on all that is told in a span. No field is taken to have a value that is
asked for. -/
def isOnSpan (d : LogDirective) (s : LogSpan) : Bool :=
  (d.span.isSome || d.field.isSome) && !d.hasValue && d.isOnTarget s.target
    && d.span.all (· == s.name.toList) && d.isOnFields s.fields

/-- How specific a directive is: by the length of its target, and then by its field. -/
def isAtMost (d e : LogDirective) : Bool :=
  let size (d : LogDirective) := (d.target.map fun cs => (String.ofList cs).utf8ByteSize + 1).getD 0
  let isBefore (c c' : Char) : Bool := c.toNat < c'.toNat
  size d < size e || (size d == size e && !List.lex (e.field.getD []) (d.field.getD []) isBefore)

end LogDirective

/-- Directives in order. -/
abbrev LogFilter := List LogDirective

namespace LogFilter

def pieces (s : String) : List (List Char) := (splitAtMark ',' s.toList).filter (!·.isEmpty)

/-- A filter of which every directive has to be understood. -/
def ofText? (s : String) : Option LogFilter := (pieces s).mapM LogDirective.ofChars?

/-- A filter without the directives that are not understood. -/
def ofReadable (s : String) : LogFilter := (pieces s).filterMap LogDirective.ofChars?

/-- The most specific directive on an event; of two that are alike, the later one. -/
def onEvent? (f : LogFilter) (e : LogEvent) : Option LogDirective :=
  (f.filter (·.isOnEvent e)).foldl (fun best d =>
    match best with
    | some b => if b.isAtMost d then some d else some b
    | none => some d) none

/-- An event is shown by the directive on it, or by one on a span that it is told in. -/
def enables (f : LogFilter) (e : LogEvent) : Bool :=
  (f.onEvent? e).any (·.level.shows e.level)
    || f.any fun d => d.level.shows e.level && e.spans.any d.isOnSpan

end LogFilter

end CostJournal
