import CostJournal.Decimal.Basic
import CostJournal.Text.Digits

/-!
# The text of a decimal

`Decimal.toText` writes every place of the scale. `Decimal.ofText` reads such texts back, and also
underscores between digits and more digits than fit, which it rounds off; `Decimal.ofScientific`
reads a text with an exponent of ten. A minus before digits that are all zero is not kept, but one
before digits that an exponent rounds off to zero is.
-/

namespace CostJournal

/-- Why a text is no decimal. -/
inductive DecimalError where
  | empty
  | unknownCharacter
  | secondPoint
  | leadingSeparator
  | noDigits
  | tooManyDigits
  | roundedTooLarge
  | malformed
  | exponentTooLarge (exponent : Nat)
  | tooLarge
deriving DecidableEq

def DecimalError.message : DecimalError → String
  | empty => "Invalid decimal: empty"
  | unknownCharacter => "Invalid decimal: unknown character"
  | secondPoint => "Invalid decimal: two decimal points"
  | leadingSeparator => "Invalid decimal: must start lead with a number"
  | noDigits => "Invalid decimal: no digits found"
  | tooManyDigits => "Invalid decimal: overflow from too many digits"
  | roundedTooLarge => "Invalid decimal: overflow from mantissa after rounding"
  | malformed => "Failed to parse"
  | exponentTooLarge e => "Scale exceeds the maximum precision allowed: " ++ natText e ++ " > " ++ natText maxScale
  | tooLarge => "Number exceeds maximum value that can be represented."

namespace Decimal

/-- A sign for a negative value, the whole part, and every place of the scale after a point. -/
def toChars (d : Decimal) : List Char :=
  let whole := digits (d.magnitude / tenPow d.scale)
  let unsigned := if d.scale = 0 then whole else whole ++ '.' :: paddedDigits d.scale d.magnitude
  if d.negative then '-' :: unsigned else unsigned

def toText (d : Decimal) : String := String.ofList d.toChars

/-- The decimal with a sign and the magnitude `data / 10 ^ scale`; a zero has no sign. -/
def signed (negative : Bool) (data scale : Nat) (hd : data < coefficientLimit) (hs : scale ≤ maxScale) :
    Decimal :=
  ⟨negative && data != 0, data, scale, hd, hs⟩

/-- Digits that are dropped, and underscores between them. -/
def dropDigits : List Char → Except DecimalError Unit
  | [] => .ok ()
  | c :: rest =>
    if (digit? c).isSome || c == '_' then dropDigits rest
    else if c = '.' then .error .secondPoint
    else .error .unknownCharacter

/-- The first of the digits that are dropped, zero without one. -/
def firstDropped : List Char → Except DecimalError Nat
  | [] => .ok 0
  | c :: rest =>
    match digit? c with
    | some n => (dropDigits rest).map fun _ => n
    | none =>
      if c = '_' then firstDropped rest
      else if c = '.' then .error .secondPoint
      else .error .unknownCharacter

/-- Ends the digits where no more fit: the first one that is dropped rounds, a half upwards. -/
def finishRounded (negative : Bool) (data scale : Nat) (hd : data < coefficientLimit)
    (hs : scale ≤ maxScale) (dropped : List Char) : Except DecimalError Decimal :=
  match firstDropped dropped with
  | .error e => .error e
  | .ok n =>
    if n < 5 then .ok (signed negative data scale hd hs)
    else if h : data + 1 < coefficientLimit then .ok (signed negative (data + 1) scale h hs)
    else if scale = 0 then .error .roundedTooLarge
    else .ok (signed negative ((data + 1 + 4) / 10) (scale - 1) (by omega) (by omega))

/-- Reads digits, at most one point, and underscores after the first digit. -/
def readDigits (negative : Bool) (data scale : Nat) (hd : data < coefficientLimit)
    (hs : scale ≤ maxScale) (point started : Bool) : List Char → Except DecimalError Decimal
  | [] => if started then .ok (signed negative data scale hd hs) else .error .noDigits
  | c :: rest =>
    if hfull : (point && scale == maxScale) = true then finishRounded negative data scale hd hs (c :: rest)
    else
      match digit? c with
      | some n =>
        if h : data * 10 + n < coefficientLimit then
          if hp : point then
            readDigits negative (data * 10 + n) (scale + 1) h
              (by simp only [hp, Bool.true_and, beq_iff_eq] at hfull; omega) point true rest
          else readDigits negative (data * 10 + n) 0 h (Nat.zero_le _) point true rest
        else if point then finishRounded negative data scale hd hs (c :: rest)
        else .error .tooManyDigits
      | none =>
        if c = '.' then
          if point then .error .secondPoint
          else readDigits negative data scale hd hs true started rest
        else if c = '_' then
          if started then readDigits negative data scale hd hs point started rest
          else .error .leadingSeparator
        else .error .unknownCharacter

/-- Reads an optional sign and then digits. -/
def ofChars : List Char → Except DecimalError Decimal
  | [] => .error .empty
  | '-' :: rest => readDigits true 0 0 coefficientLimit_pos (Nat.zero_le _) false false rest
  | '+' :: rest => readDigits false 0 0 coefficientLimit_pos (Nat.zero_le _) false false rest
  | cs => readDigits false 0 0 coefficientLimit_pos (Nat.zero_le _) false false cs

def ofText (s : String) : Except DecimalError Decimal := ofChars s.toList

/-- An exponent: digits after an optional plus, below 2 ^ 32. -/
def exponent? (cs : List Char) : Option Nat :=
  (natOfDigits? (match cs with | '+' :: rest => rest | _ => cs)).filter (· < twoPow 32)

/-- The decimal divided by `10 ^ exponent`: the scale grows, and what grows beyond the largest scale
is rounded off first, a half away from zero. The sign stays, also that of a zero. -/
def shiftDown (d : Decimal) (exponent : Nat) : Except DecimalError Decimal :=
  if maxScale < exponent then .error (.exponentTooLarge exponent)
  else if h : d.scale + exponent ≤ maxScale then
    .ok { d with scale := d.scale + exponent, scale_le := h }
  else
    .ok ⟨d.negative, roundHalfUp d.magnitude (tenPow (d.scale + exponent - maxScale)), maxScale,
      Nat.lt_of_le_of_lt (roundHalfUp_le_self _ _ (tenPow_ne_zero _)) d.magnitude_lt, Nat.le_refl _⟩

/-- The decimal times `10 ^ exponent`: the scale shrinks, and beyond zero the magnitude grows. -/
def shiftUp (d : Decimal) (exponent : Nat) : Except DecimalError Decimal :=
  if exponent ≤ d.scale then
    .ok { d with scale := d.scale - exponent, scale_le := Nat.le_trans (Nat.sub_le _ _) d.scale_le }
  else if maxScale < exponent then .error (.exponentTooLarge exponent)
  else
    let grown := d.magnitude * tenPow (exponent - d.scale)
    if h : grown < coefficientLimit then .ok ⟨d.negative, grown, 0, h, Nat.zero_le _⟩
    else .error .tooLarge

def isExponentMark (c : Char) : Bool := c == 'e' || c == 'E'

/-- Reads a decimal, the mark `e` or `E` and an exponent of ten. -/
def ofScientific (s : String) : Except DecimalError Decimal := do
  let (base, rest) := s.toList.span (!isExponentMark ·)
  match rest with
  | [] => throw .malformed
  | _ :: exponent =>
    let d ← ofChars base
    match exponent with
    | '-' :: down =>
      match exponent? down with
      | some e => d.shiftDown e
      | none => throw .malformed
    | up =>
      match exponent? up with
      | some e => d.shiftUp e
      | none => throw .malformed

/-- Reads either form; a text of neither form is reported as a bad scientific one. -/
def ofAnyText (s : String) : Except DecimalError Decimal :=
  match ofText s with
  | .ok d => .ok d
  | .error _ => ofScientific s

end Decimal

end CostJournal
