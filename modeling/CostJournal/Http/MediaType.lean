import CostJournal.Text.Digits
import CostJournal.Text.Percent

/-!
# Media types

A type and a subtype with a slash between them, and perhaps parameters `name=value` after semicolons.
Names are read in any case and written in lower case, and so is the value of `charset`; other values
keep their case.
-/

namespace CostJournal

/-- Why a text is no media type. -/
inductive MediaTypeError where
  | missingSlash
  | missingEqual
  | missingQuote
  | invalidToken (byte position : Nat)
deriving DecidableEq

namespace MediaTypeError

def message : MediaTypeError → String
  | missingSlash => "mime parse error: a slash (/) was missing between the type and subtype"
  | missingEqual =>
    "mime parse error: an equals sign (=) was missing between a parameter and its value"
  | missingQuote => "mime parse error: a quote (\") was missing from a parameter value"
  | invalidToken byte position =>
    "mime parse error: an invalid token was encountered, " ++ String.ofList (hex byte) ++ " at position "
      ++ natText position
where
  hex (n : Nat) : List Char :=
    if n < 16 then [upperHexDigit n] else [upperHexDigit (n / 16), upperHexDigit (n % 16)]

/-- A character, of which the first byte in UTF-8 is told, at a position in bytes. -/
def unexpected (c : Char) (position : Nat) : MediaTypeError :=
  .invalidToken (((String.utf8EncodeChar c).head?.map UInt8.toNat).getD 0) position

end MediaTypeError

namespace MediaType

/-- The characters of names and of values without quotes. -/
def isToken (c : Char) : Bool := c.isAlphanum || "!#$%&'*+-.^_\x60|~".toList.contains c

/-- The characters of values between quotes. A backslash is one of them, and hides no quote. -/
def isQuotable (c : Char) : Bool := c == '\t' || !isControl c

/-- Where in the parameters their reader is; `folds` says that a value is written in lower case. -/
inductive ParameterMode where
  /-- Before a name. -/
  | start
  | name (read : List Char)
  | valueStart (folds : Bool)
  | value (folds : Bool)
  /-- The first character between quotes, which may be a quote itself. -/
  | quotedStart (folds : Bool)
  | quoted (folds : Bool)
  | afterQuoted
deriving DecidableEq

def folded (folds : Bool) (c : Char) : Char := if folds then c.toLower else c

/-- The parameters after a semicolon, as they are written. -/
def parameters (mode : ParameterMode) (position : Nat) : List Char → Except MediaTypeError (List Char)
  | [] =>
    match mode with
    | .name _ => .error .missingEqual
    | .quotedStart _ | .quoted _ => .error .missingQuote
    | _ => .ok []
  | c :: cs =>
    let goOn (mode : ParameterMode) (written : Char) : Except MediaTypeError (List Char) :=
      (parameters mode (position + c.utf8Size) cs).map (written :: ·)
    let stop : Except MediaTypeError (List Char) := .error (.unexpected c position)
    match mode with
    | .start =>
      if c = ' ' then goOn .start c
      else if isToken c then goOn (.name [c.toLower]) c.toLower
      else stop
    | .name read =>
      if isToken c then goOn (.name (read ++ [c.toLower])) c.toLower
      else if c = '=' then goOn (.valueStart (read == "charset".toList)) c
      else stop
    | .valueStart folds =>
      if c = '"' then goOn (.quotedStart folds) c
      else if isToken c then goOn (.value folds) (folded folds c)
      else stop
    | .value folds =>
      if isToken c then goOn (.value folds) (folded folds c)
      else if c = ';' then goOn .start c
      else stop
    | .quotedStart folds => if isQuotable c then goOn (.quoted folds) (folded folds c) else stop
    | .quoted folds =>
      if c = '"' then goOn .afterQuoted c
      else if isQuotable c then goOn (.quoted folds) (folded folds c)
      else stop
    | .afterQuoted =>
      if c = ';' then goOn .start c else if c = ' ' then goOn .afterQuoted c else stop

/-- The media type that a text names. A semicolon without parameters is left out. -/
def ofText (s : String) : Except MediaTypeError String := do
  let (type, rest) := s.toList.span isToken
  match rest with
  | [] => throw .missingSlash
  | c :: rest =>
    if c ≠ '/' ∨ type.isEmpty then throw (.unexpected c type.length)
    let (subtype, rest) := rest.span isToken
    let names := (type ++ '/' :: subtype).map Char.toLower
    match rest with
    | [] => return String.ofList names
    | c :: rest =>
      if c ≠ ';' ∨ subtype.isEmpty then throw (.unexpected c names.length)
      let written ← parameters .start (names.length + 1) rest
      return String.ofList (if written.all (· == ' ') then names else names ++ ';' :: written)

end MediaType

end CostJournal
