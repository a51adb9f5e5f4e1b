import CostJournal.Text.Hex

/-!
# Percent encoding

Bytes written as a percent sign and two hexadecimal digits. Each use has its own set of characters to
encode; characters outside ASCII are always encoded, byte by byte in UTF-8.
-/

namespace CostJournal

def percentByte (b : UInt8) : List Char :=
  ['%', upperHexDigit (b.toNat / 16), upperHexDigit (b.toNat % 16)]

def isControl (c : Char) : Bool := c.toNat < 0x20 || c.toNat == 0x7F

/-- Encodes control characters, characters outside ASCII and the characters of `set`. -/
def percentEncode (set : List Char) (cs : List Char) : List Char :=
  cs.flatMap fun c =>
    if isControl c || 0x7F < c.toNat || set.contains c then
      (String.utf8EncodeChar c).flatMap percentByte
    else [c]

/-- The bytes that a text stands for: encoded bytes, and the others in UTF-8. -/
def percentDecode : List Char → List UInt8
  | '%' :: a :: b :: cs =>
    match hexDigit? a, hexDigit? b with
    | some m, some n => UInt8.ofNat (16 * m + n) :: percentDecode cs
    | _, _ => String.utf8EncodeChar '%' ++ percentDecode (a :: b :: cs)
  | c :: cs => String.utf8EncodeChar c ++ percentDecode cs
  | [] => []

end CostJournal
