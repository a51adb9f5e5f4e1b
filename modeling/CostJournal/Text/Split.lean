/-!
# Split texts

A text cut at every mark, and pieces put together with marks. Pieces that each end with a mark come back
(`splitText_join`).
-/

namespace CostJournal

/-- The pieces between characters that are marks; there is always one more piece than marks. -/
def splitAtMarks (isMark : Char → Bool) : List Char → List (List Char)
  | [] => [[]]
  | c :: cs =>
    if isMark c then [] :: splitAtMarks isMark cs
    else match splitAtMarks isMark cs with
      | piece :: pieces => (c :: piece) :: pieces
      | [] => [[c]]

def splitAtMark (mark : Char) : List Char → List (List Char) := splitAtMarks (· == mark)

/-- Pieces with a mark between each two. -/
def joinWith (mark : Char) : List (List Char) → List Char
  | [] => []
  | [piece] => piece
  | piece :: pieces => piece ++ mark :: joinWith mark pieces

/-- What has no mark in it is a piece when a mark follows. -/
theorem splitAtMark_append {mark : Char} {piece : List Char} (h : mark ∉ piece) (cs : List Char) :
    splitAtMark mark (piece ++ mark :: cs) = piece :: splitAtMark mark cs := by
  unfold splitAtMark
  induction piece with
  | nil => exact if_pos (beq_self_eq_true mark)
  | cons c piece ih =>
    have hc : ¬(c == mark) = true := fun heq => h (beq_iff_eq.mp heq ▸ List.mem_cons_self)
    rw [List.cons_append, splitAtMarks, if_neg hc, ih fun hmem => h (List.mem_cons_of_mem _ hmem)]

/-- A text cut at every `mark`. -/
def splitText (mark : Char) (s : String) : List String := (splitAtMark mark s.toList).map String.ofList

/-- Pieces that each end with a mark come back, and then an empty one. -/
theorem splitText_join {mark : Char} {pieces : List String} (h : ∀ s ∈ pieces, mark ∉ s.toList) :
    splitText mark (String.join (pieces.map (· ++ String.singleton mark))) = pieces ++ [""] := by
  unfold splitText
  induction pieces with
  | nil => rfl
  | cons s pieces ih =>
    obtain ⟨hs, hpieces⟩ := List.forall_mem_cons.mp h
    have htext : (String.join ((s :: pieces).map (· ++ String.singleton mark))).toList =
        s.toList ++ mark :: (String.join (pieces.map (· ++ String.singleton mark))).toList := by simp
    rw [htext, splitAtMark_append hs, List.map_cons, ih hpieces, String.ofList_toList, List.cons_append]

end CostJournal
