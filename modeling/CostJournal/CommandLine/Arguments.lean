import CostJournal.Settings.Value

/-!
# Arguments

`[--config FILE] generate-journals [--year Y --month M] [--product-id ID]... [--authorization ID]...`,
read from left to right: the first fault decides, unless a request for help or for the version comes
before it.
-/

namespace CostJournal

/-- The arguments of the command. -/
structure Arguments where
  config : Option String := none
  year : Option Int := none
  month : Option Nat := none
  productIds : List String := []
  authorizationIds : List String := []
deriving DecidableEq

/-- What the arguments ask for. -/
inductive ArgumentRequest where
  /-- Help, or the version. -/
  | information
  | generate (a : Arguments)
deriving DecidableEq

namespace Arguments

/-- An argument by its form. -/
inductive Token where
  /-- `--name`, or `--name=value`. -/
  | long (name : String) (value : Option String)
  /-- One dash and letters. -/
  | short (letters : List Char)
  /-- Two dashes alone, after which nothing is an option. -/
  | escape
  | word (s : String)
deriving DecidableEq

def Token.ofText (s : String) : Token :=
  match s.toList with
  | ['-', '-'] => escape
  | '-' :: '-' :: cs =>
    let (name, rest) := cs.span (· != '=')
    long (String.ofList name) (match rest with | _ :: v => some (String.ofList v) | [] => none)
  | '-' :: c :: cs => short (c :: cs)
  | _ => word s

/-- The value of an option, and the arguments after it: it is attached, or else the next word. -/
def takeValue? (attached : Option String) (rest : List String) : Option (String × List String) :=
  match attached, rest with
  | some v, _ => some (v, rest)
  | none, next :: rest =>
    match Token.ofText next with
    | .word v => some (v, rest)
    | _ => none
  | none, [] => none

theorem length_takeValue?_le {attached : Option String} {rest : List String} {p : String × List String}
    (h : takeValue? attached rest = some p) : p.2.length ≤ rest.length := by
  unfold takeValue? at h
  split at h
  · cases h; exact Nat.le_refl _
  · split at h
    · cases h; simp
    · simp at h
  · simp at h

/-- An option that comes once. -/
def once? {α : Type} (old : Option α) (new : Option α) : Option (Option α) :=
  match old, new with
  | none, some a => some (some a)
  | _, _ => none

def year? (s : String) : Option Int := (int64? s).filter (isSigned 31)

def month? (s : String) : Option Nat :=
  ((int64? s).filter fun n => 0 ≤ n && n.toNat < twoPow 32).map Int.toNat

/-- The arguments with one more option. -/
def add? (a : Arguments) (name value : String) : Option Arguments :=
  if name = "config" then (once? a.config (some value)).map fun c => { a with config := c }
  else if name = "year" then (once? a.year (year? value)).map fun y => { a with year := y }
  else if name = "month" then (once? a.month (month? value)).map fun m => { a with month := m }
  else if name = "product-id" then some { a with productIds := a.productIds ++ [value] }
  else if name = "authorization" then
    some { a with authorizationIds := a.authorizationIds ++ [value] }
  else none

def optionNames : List String := ["config", "year", "month", "product-id", "authorization"]

/-- A year comes with a month. -/
def finish? (a : Arguments) : Option ArgumentRequest :=
  if a.year.isSome = a.month.isSome then some (.generate a) else none

/-- Reads what follows the name of the command. -/
def readCommand? (a : Arguments) : List String → Option ArgumentRequest
  | [] => a.finish?
  | arg :: rest =>
    match Token.ofText arg with
    | .long name attached =>
      if name = "help" then if attached.isNone then some .information else none
      else if optionNames.contains name then
        match _h : takeValue? attached rest with
        | some (value, rest') =>
          match a.add? name value with
          | some a => readCommand? a rest'
          | none => none
        | none => none
      else none
    | .short letters => if letters.head? == some 'h' then some .information else none
    | .escape => if rest.isEmpty then a.finish? else none
    | .word _ => none
termination_by args => args.length
decreasing_by
  have : rest'.length ≤ rest.length := length_takeValue?_le _h
  simp only [List.length_cons]
  omega

def commandName : String := "generate-journals"

/-- Help on the whole, on the command or on itself. -/
def help? (args : List String) : Option ArgumentRequest :=
  if args = [] || args = [commandName] || args = ["help"] then some .information else none

/-- The command and what follows it. -/
def readWord? (config : Option String) (s : String) (rest : List String) : Option ArgumentRequest :=
  if s = commandName then
    match readCommand? {} rest with
    | some (.generate a) => some (.generate { a with config := a.config.or config })
    | other => other
  else if s = "help" then help? rest
  else none

/-- Reads all arguments. The file of settings may be named before the command and after it; the name
after it counts. `again` says that it was named twice before the command, the second time by a word of
its own: what stands after the command may still ask for help. -/
def read? (config : Option String) (again : Bool) : List String → Option ArgumentRequest
  | [] => none
  | arg :: rest =>
    match Token.ofText arg with
    | .long name attached =>
      if again then none
      else if name = "help" || name = "version" then
        if attached.isNone then some .information else none
      else if name = "config" then
        match _h : takeValue? attached rest with
        | some (value, rest') =>
          if config.isNone then read? (some value) false rest'
          else if attached.isNone then read? config true rest'
          else none
        | none => none
      else none
    | .short letters =>
      if !again && (letters.head? == some 'h' || letters.head? == some 'V') then some .information
      else none
    | .escape => none
    | .word s => (readWord? config s rest).filter fun r => !again || r == .information
termination_by args => args.length
decreasing_by
  all_goals
    have : rest'.length ≤ rest.length := length_takeValue?_le _h
    simp only [List.length_cons]
    omega

end Arguments

end CostJournal
