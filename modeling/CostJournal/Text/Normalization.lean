import CostJournal.Text.Combining
import CostJournal.Text.Composite

/-!
# Normalization

Texts that look the same, written in one way (`normalize`): composites are taken apart, the marks of
each character are put in order, and what can be put together again is.
-/

namespace CostJournal

/-- The characters that a character stands for when none of them is a composite. -/
def decompose (c : Char) : List Char :=
  match _h : pair? c with
  | some (d, e) => decompose d ++ [e]
  | none => [c]
termination_by c.toNat
decreasing_by exact fst_toNat_lt_of_pair? _h

/-- Puts a mark before the first character that is no mark of a lower class. -/
def insertMark (c : Char) : List Char → List Char
  | [] => [c]
  | d :: cs =>
    if combiningClass d = 0 ∨ combiningClass c ≤ combiningClass d then c :: d :: cs
    else d :: insertMark c cs

/-- The marks between characters that are none, by their classes. -/
def orderMarks : List Char → List Char
  | [] => []
  | c :: cs => if combiningClass c = 0 then c :: orderMarks cs else insertMark c (orderMarks cs)

/-- Puts characters together with the last one that is no mark; `marks` are those between them, the
nearest first, and they keep later ones of their class or a lower one away. -/
def composeAfter (starter : Char) (marks : List Char) : List Char → List Char
  | [] => starter :: marks.reverse
  | c :: cs =>
    let apart := match marks with
      | [] => false
      | mark :: _ => combiningClass c ≤ combiningClass mark
    match if apart then none else compose? starter c with
    | some composite => composeAfter composite marks cs
    | none =>
      if combiningClass c = 0 then starter :: marks.reverse ++ composeAfter c [] cs
      else composeAfter starter (c :: marks) cs

def composeAll : List Char → List Char
  | [] => []
  | c :: cs => if combiningClass c = 0 then composeAfter c [] cs else c :: composeAll cs

/-- The composed normal form of a text. -/
def normalize (cs : List Char) : List Char := composeAll (orderMarks (cs.flatMap decompose))

end CostJournal
