import CostJournal.Decimal.Text
import CostJournal.Failure
import CostJournal.Text.Blank

/-!
# Amounts in reports

Report amounts come with `,` or `.` as decimal mark. The last of both kinds is the mark, and the
other kind groups thousands. A comma alone, once, groups thousands when three bytes follow and the
part before it is not zero: `1,234` is 1234, and `0,123` is 0.123.
-/

namespace CostJournal.Amount

def commaToPoint (c : Char) : Char := if c = ',' then '.' else c

/-- The last separator of a text. -/
def lastSeparator? (cs : List Char) : Option Char :=
  cs.reverse.find? fun c => c == '.' || c == ','

/-- The number of bytes of a text. -/
def byteLength (cs : List Char) : Nat := cs.foldl (fun n c => n + c.utf8Size) 0

/-- Nothing but zeros after the signs. -/
def isZeroWhole (cs : List Char) : Bool :=
  (cs.dropWhile fun c => c == '-' || c == '+').all (· == '0')

/-- The only comma of a text groups thousands. -/
def groupsThousands (cs : List Char) : Bool :=
  let (whole, fraction) := cs.span (· != ',')
  byteLength (fraction.drop 1) == 3 && !isZeroWhole whole

/-- The text with a point as its only separator. -/
def withPoint (cs : List Char) : List Char :=
  if cs.count ',' = 0 then cs
  else if cs.count '.' ≠ 0 then
    if lastSeparator? cs = some '.' then cs.filter (· != ',')
    else (cs.filter (· != '.')).map commaToPoint
  else if cs.count ',' = 1 && !groupsThousands cs then cs.map commaToPoint
  else cs.filter (· != ',')

/-- The amount of a report row; blanks around it do not count, and no text is zero. -/
def ofReport (raw : String) : Except Failure Decimal :=
  match withPoint (trimBlanks raw.toList) with
  | [] => .ok .zero
  | cs =>
    match Decimal.ofAnyText (String.ofList cs) with
    | .ok d => .ok d
    | .error e => .error (.validation ("Invalid report amount '" ++ raw ++ "': " ++ e.message))

end CostJournal.Amount
