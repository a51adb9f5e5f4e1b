import CostJournal.Amount
import CostJournal.Proofs.Returns
import CostJournal.Proofs.Text.Blank
import Mathlib.Data.List.TakeDrop

/-!
# Separators of amounts

What a text becomes before it is read as a decimal, by the separators that it has: `withPoint_of_lone` for a
lone comma, `withPoint_of_point_last` and `withPoint_of_comma_last` where both kinds stand. The amount of a report
depends on nothing else (`toOption_ofReport`).
-/

namespace CostJournal.Amount

variable {cs whole fraction : List Char} {c : Char}

/-- The decimal that a text without grouping is, if it is one; no text is zero. -/
def plainAmount? (cs : List Char) : Option Decimal :=
  if cs = [] then some .zero else (Decimal.ofAnyText (String.ofList cs)).toOption

theorem toOption_ofReport (raw : String) :
    (ofReport raw).toOption = plainAmount? (withPoint (trimBlanks raw.toList)) := by
  unfold ofReport plainAmount?
  split
  next heq => rw [if_pos heq]; rfl
  next hne =>
    rw [if_neg hne]
    split
    next heq => rw [heq]; rfl
    next heq => rw [heq]; rfl

theorem ofReport_eq_ok {raw : String} {d : Decimal} :
    ofReport raw = .ok d ↔ plainAmount? (withPoint (trimBlanks raw.toList)) = some d := by
  rw [← toOption_ofReport, toOption_eq_some]

def HasNoSeparator (cs : List Char) : Prop := ',' ∉ cs ∧ '.' ∉ cs

theorem HasNoSeparator.of_areDigits (h : AreDigits cs) : HasNoSeparator cs :=
  ⟨fun hc => absurd (h _ hc) (by decide), fun hc => absurd (h _ hc) (by decide)⟩

theorem filter_ne_of_notMem (h : c ∉ cs) : cs.filter (· != c) = cs :=
  List.filter_eq_self.mpr fun _ hd => bne_iff_ne.mpr fun heq => h (heq ▸ hd)

theorem map_commaToPoint_of_notMem (h : ',' ∉ cs) : cs.map commaToPoint = cs := by
  refine (List.map_congr_left fun c hc => ?_).trans (List.map_id cs)
  exact if_neg fun heq : c = ',' => h (heq ▸ hc)

theorem utf8Size_of_isDigit (h : c.isDigit = true) : c.utf8Size = 1 := by
  obtain ⟨-, hnine⟩ := Bool.and_eq_true_iff.mp h
  exact Char.utf8Size_eq_one_iff.mpr (UInt32.le_trans (of_decide_eq_true hnine) (by decide))

theorem byteLength_of_ascii (h : ∀ c ∈ cs, c.utf8Size = 1) : byteLength cs = cs.length := by
  rw [byteLength, List.foldl_ext _ (fun n _ => n + 1) 0 fun n c hc => by rw [h c hc], List.foldl_add_const,
    Nat.zero_add, Nat.one_mul]

theorem withPoint_of_notMem (h : ',' ∉ cs) : withPoint cs = cs :=
  if_pos (List.count_eq_zero.mpr h)

theorem withPoint_of_several (hpoint : '.' ∉ cs) (h : 1 < cs.count ',') : withPoint cs = cs.filter (· != ',') := by
  have hnotLone : ¬(decide (cs.count ',' = 1) && !groupsThousands cs) = true := by
    simp only [Bool.and_eq_true, decide_eq_true_eq]
    omega
  unfold withPoint
  rw [if_neg (by omega), if_neg (not_not.mpr (List.count_eq_zero.mpr hpoint)), if_neg hnotLone]

theorem groupsThousands_append (hwhole : ',' ∉ whole) (fraction : List Char) :
    groupsThousands (whole ++ ',' :: fraction) = (byteLength fraction == 3 && !isZeroWhole whole) := by
  have hnot : ∀ c ∈ whole, (c != ',') = true := fun c hc => bne_iff_ne.mpr fun heq => hwhole (heq ▸ hc)
  unfold groupsThousands
  rw [List.span_eq_takeWhile_dropWhile, List.takeWhile_append_of_pos hnot, List.dropWhile_append_of_pos hnot,
    List.takeWhile_cons_of_neg (by decide), List.dropWhile_cons_of_neg (by decide), List.append_nil]
  rfl

/-- A lone comma is dropped when three bytes follow it and not only zeros precede it, and else is the point. -/
theorem withPoint_of_lone (hwhole : HasNoSeparator whole) (hfraction : HasNoSeparator fraction) :
    withPoint (whole ++ ',' :: fraction) =
      if byteLength fraction = 3 ∧ isZeroWhole whole = false then whole ++ fraction
      else whole ++ '.' :: fraction := by
  have hcommas : (whole ++ ',' :: fraction).count ',' = 1 := by
    rw [List.count_append, List.count_cons_self, List.count_eq_zero.mpr hwhole.1, List.count_eq_zero.mpr hfraction.1]
  have hpoints : (whole ++ ',' :: fraction).count '.' = 0 := by
    rw [List.count_append, List.count_cons_of_ne (by decide), List.count_eq_zero.mpr hwhole.2,
      List.count_eq_zero.mpr hfraction.2]
  unfold withPoint
  rw [hcommas, hpoints, if_neg Nat.one_ne_zero, if_neg (not_not.mpr rfl), groupsThousands_append hwhole.1]
  by_cases hgroups : byteLength fraction = 3 ∧ isZeroWhole whole = false
  · rw [if_pos hgroups, if_neg (by simp [hgroups]), List.filter_append, filter_ne_of_notMem hwhole.1,
      List.filter_cons_of_neg (by decide), filter_ne_of_notMem hfraction.1]
  · rw [if_neg hgroups, if_pos (by simpa [imp_iff_not_or] using hgroups), List.map_append,
      map_commaToPoint_of_notMem hwhole.1, List.map_cons, map_commaToPoint_of_notMem hfraction.1]
    rfl

theorem lastSeparator?_append (hc : c = '.' ∨ c = ',') (hfraction : HasNoSeparator fraction) (whole : List Char) :
    lastSeparator? (whole ++ c :: fraction) = some c := by
  have hnone : fraction.reverse.find? (fun c => c == '.' || c == ',') = none := by
    rw [List.find?_eq_none]
    intro d hd hmark
    rw [List.mem_reverse] at hd
    rcases Bool.or_eq_true _ _ |>.mp hmark with heq | heq
    · exact hfraction.2 (beq_iff_eq.mp heq ▸ hd)
    · exact hfraction.1 (beq_iff_eq.mp heq ▸ hd)
  rw [lastSeparator?, List.reverse_append, List.reverse_cons, List.find?_append, List.find?_append, hnone,
    List.find?_singleton, if_pos (by rcases hc with rfl | rfl <;> rfl)]
  rfl

theorem withPoint_of_point_last (hwhole : ',' ∈ whole) (hfraction : HasNoSeparator fraction) :
    withPoint (whole ++ '.' :: fraction) = whole.filter (· != ',') ++ '.' :: fraction := by
  have hcommas : (whole ++ '.' :: fraction).count ',' ≠ 0 :=
    (List.count_pos_iff.mpr (List.mem_append_left _ hwhole)).ne'
  have hpoints : (whole ++ '.' :: fraction).count '.' ≠ 0 :=
    (List.count_pos_iff.mpr (List.mem_append_right _ List.mem_cons_self)).ne'
  unfold withPoint
  rw [if_neg hcommas, if_pos hpoints, if_pos (lastSeparator?_append (.inl rfl) hfraction whole), List.filter_append,
    List.filter_cons_of_pos (by decide), filter_ne_of_notMem hfraction.1]

theorem withPoint_of_comma_last (hwhole : '.' ∈ whole) (hcomma : ',' ∉ whole) (hfraction : HasNoSeparator fraction) :
    withPoint (whole ++ ',' :: fraction) = whole.filter (· != '.') ++ '.' :: fraction := by
  have hcommas : (whole ++ ',' :: fraction).count ',' ≠ 0 :=
    (List.count_pos_iff.mpr (List.mem_append_right _ List.mem_cons_self)).ne'
  have hpoints : (whole ++ ',' :: fraction).count '.' ≠ 0 :=
    (List.count_pos_iff.mpr (List.mem_append_left _ hwhole)).ne'
  have hlast : lastSeparator? (whole ++ ',' :: fraction) ≠ some '.' := by
    rw [lastSeparator?_append (.inr rfl) hfraction]
    decide
  unfold withPoint
  rw [if_neg hcommas, if_pos hpoints, if_neg hlast, List.filter_append, List.filter_cons_of_pos (by decide),
    filter_ne_of_notMem hfraction.2, List.map_append,
    map_commaToPoint_of_notMem fun h => hcomma (List.mem_filter.mp h).1, List.map_cons,
    map_commaToPoint_of_notMem hfraction.1]
  rfl

end CostJournal.Amount
