import CostJournal.Proofs.Amount.Separators
import CostJournal.Proofs.Decimal.Characters

/-!
# A lone comma

A lone comma before three digits groups thousands, unless nothing but zeros precedes it, and any other lone comma
is the decimal mark. The amounts of reports follow this rule but for fractions of three characters that are not all
digits, as in `1,5e1` (`TakenForThousands`): there the comma is dropped as well, and `followsRule_iff` says
exactly when that makes no difference.
-/

namespace CostJournal.Amount
open Decimal

/-- A text with one comma and no point; but for the blanks around it, `whole` is before the comma and `fraction`
after it. -/
structure IsLoneComma (s : String) (whole fraction : List Char) : Prop where
  comma : s.toList.count ',' = 1
  point : '.' ∉ s.toList
  parts : trimBlanks s.toList = whole ++ ',' :: fraction

def withoutComma (s : String) : String := String.ofList (s.toList.filter (· != ','))

def withCommaAsPoint (s : String) : String := String.ofList (s.toList.map commaToPoint)

/-- Both texts are amounts of one value, or neither is an amount. -/
inductive SameAmount (s t : String) : Prop where
  | accepted {a b : Decimal} : ofReport s = .ok a → ofReport t = .ok b → a.sameValue b = true → SameAmount s t
  | rejected {e e' : Failure} : ofReport s = .error e → ofReport t = .error e' → SameAmount s t

def AreThreeDigits (cs : List Char) : Prop := cs.length = 3 ∧ AreDigits cs

/-- The comma of the text groups thousands or is the decimal mark, as the rule says. -/
structure FollowsRule (s : String) (whole fraction : List Char) : Prop where
  thousands : AreThreeDigits fraction ∧ isZeroWhole whole = false → SameAmount s (withoutComma s)
  point : ¬(AreThreeDigits fraction ∧ isZeroWhole whole = false) → SameAmount s (withCommaAsPoint s)

/-- Three characters of a number, not all of them digits, that follow a whole part other than zero. -/
structure TakenForThousands (whole fraction : List Char) : Prop where
  length : fraction.length = 3
  chars : AreNumberChars fraction
  notDigits : ¬AreDigits fraction
  notZero : isZeroWhole whole = false

variable {s t : String} {whole fraction cs : List Char}

theorem sameAmount_iff : SameAmount s t ↔
    Option.Rel (fun a b => a.sameValue b = true) (ofReport s).toOption (ofReport t).toOption := by
  constructor
  · rintro (⟨hs, ht, hvalue⟩ | ⟨hs, ht⟩)
    · rw [hs, ht]
      exact .some hvalue
    · rw [hs, ht]
      exact .none
  · intro h
    match hs : ofReport s, ht : ofReport t with
    | .ok _, .ok _ =>
      rw [hs, ht] at h
      obtain ⟨hvalue⟩ | _ := h
      exact .accepted hs ht hvalue
    | .error _, .error _ => exact .rejected hs ht
    | .ok _, .error _ =>
      rw [hs, ht] at h
      exact nomatch h
    | .error _, .ok _ =>
      rw [hs, ht] at h
      exact nomatch h

theorem sameAmount_of_toOption_eq (h : (ofReport s).toOption = (ofReport t).toOption) : SameAmount s t := by
  rw [sameAmount_iff, h]
  cases (ofReport t).toOption with
  | none => exact .none
  | some _ => exact .some (beq_self_eq_true _)

theorem areNumberChars_of_plainAmount? {d : Decimal} (h : plainAmount? cs = some d) : AreNumberChars cs := by
  unfold plainAmount? at h
  split at h
  next heq => exact heq ▸ .nil
  next =>
    match hread : ofAnyText (String.ofList cs) with
    | .ok _ => simpa using areNumberChars_of_ofAnyText hread
    | .error _ =>
      rw [hread] at h
      exact nomatch h

theorem utf8Size_of_isNumberChar {c : Char} (h : isNumberChar c = true) : c.utf8Size = 1 := by
  rcases Bool.or_eq_true _ _ |>.mp h with h | h
  · exact utf8Size_of_isDigit h
  · have hmem : c ∈ ['+', '-', '.', '_', 'e', 'E'] := List.contains_iff_mem.mp h
    simp only [List.mem_cons, List.not_mem_nil, or_false] at hmem
    rcases hmem with rfl | rfl | rfl | rfl | rfl | rfl <;> rfl

theorem byteLength_of_areNumberChars (h : AreNumberChars cs) : byteLength cs = cs.length :=
  byteLength_of_ascii fun c hc => utf8Size_of_isNumberChar (h c hc)

theorem AreThreeDigits.byteLength (h : AreThreeDigits cs) : byteLength cs = 3 :=
  (byteLength_of_ascii fun c hc => utf8Size_of_isDigit (h.2 c hc)).trans h.1

theorem isBlank_commaToPoint (c : Char) : isBlank (commaToPoint c) = isBlank c := by
  unfold commaToPoint
  split
  next heq =>
    rw [heq]
    rfl
  next => rfl

namespace IsLoneComma

theorem hasNoSeparator (h : IsLoneComma s whole fraction) : HasNoSeparator whole ∧ HasNoSeparator fraction := by
  obtain ⟨before, after, heq, -, -, -⟩ := exists_between s.toList
  have hcomma := h.comma
  have hpoint := h.point
  rw [heq, h.parts] at hcomma hpoint
  simp only [List.count_append, List.count_cons_self] at hcomma
  simp only [List.mem_append, List.mem_cons, not_or] at hpoint
  exact ⟨⟨List.count_eq_zero.mp (by omega), hpoint.1.2.1⟩, List.count_eq_zero.mp (by omega), hpoint.1.2.2.2⟩

theorem toOption_ofReport (h : IsLoneComma s whole fraction) : (ofReport s).toOption = plainAmount?
    (if byteLength fraction = 3 ∧ isZeroWhole whole = false then whole ++ fraction
      else whole ++ '.' :: fraction) := by
  rw [Amount.toOption_ofReport, h.parts, withPoint_of_lone h.hasNoSeparator.1 h.hasNoSeparator.2]

theorem toOption_withCommaAsPoint (h : IsLoneComma s whole fraction) :
    (ofReport (withCommaAsPoint s)).toOption = plainAmount? (whole ++ '.' :: fraction) := by
  obtain ⟨hwhole, hfraction⟩ := h.hasNoSeparator
  have hparts : trimBlanks (withCommaAsPoint s).toList = whole ++ '.' :: fraction := by
    rw [withCommaAsPoint, String.toList_ofList, trimBlanks_map isBlank_commaToPoint, h.parts, List.map_append,
      map_commaToPoint_of_notMem hwhole.1, List.map_cons, map_commaToPoint_of_notMem hfraction.1]
    rfl
  rw [Amount.toOption_ofReport, hparts, withPoint_of_notMem]
  rw [List.mem_append, List.mem_cons, not_or, not_or]
  exact ⟨hwhole.1, by decide, hfraction.1⟩

/-- With characters on both sides of the comma, dropping it uncovers no blank. -/
theorem toOption_withoutComma (h : IsLoneComma s whole fraction) (hwhole : whole ≠ []) (hfraction : fraction ≠ []) :
    (ofReport (withoutComma s)).toOption = plainAmount? (whole ++ fraction) := by
  obtain ⟨hnoWhole, hnoFraction⟩ := h.hasNoSeparator
  obtain ⟨before, after, heq, hbefore, hafter, htrimmed⟩ := exists_between s.toList
  rw [h.parts] at heq htrimmed
  have hends : Trimmed (whole ++ fraction) := by
    constructor
    · rw [List.head?_append_of_ne_nil _ hwhole, ← List.head?_append_of_ne_nil _ hwhole]
      exact htrimmed.head
    · rw [List.getLast?_append_of_ne_nil _ hfraction, ← List.getLast?_append_of_ne_nil (whole ++ [',']) hfraction,
        List.append_assoc]
      exact htrimmed.last
  have hfilter : (withoutComma s).toList =
      before.filter (· != ',') ++ (whole ++ fraction) ++ after.filter (· != ',') := by
    rw [withoutComma, String.toList_ofList, heq, List.filter_append, List.filter_append, List.filter_append,
      filter_ne_of_notMem hnoWhole.1, List.filter_cons_of_neg (by decide), filter_ne_of_notMem hnoFraction.1]
  have hblank : ∀ cs, AreBlank cs → AreBlank (cs.filter (· != ',')) := fun cs hcs c hc =>
    hcs c (List.mem_filter.mp hc).1
  rw [Amount.toOption_ofReport, hfilter, trimBlanks_between hends (hblank _ hbefore) (hblank _ hafter),
    withPoint_of_notMem]
  rw [List.mem_append, not_or]
  exact ⟨hnoWhole.1, hnoFraction.1⟩

/-- Before three bytes, and after more than zeros, the comma is dropped. -/
theorem toOption_eq_withoutComma (h : IsLoneComma s whole fraction) (hbytes : byteLength fraction = 3)
    (hzero : isZeroWhole whole = false) : (ofReport s).toOption = (ofReport (withoutComma s)).toOption := by
  have hwhole : whole ≠ [] := by
    rintro rfl
    exact absurd hzero (by decide)
  have hfraction : fraction ≠ [] := by
    rintro rfl
    exact absurd hbytes (by decide)
  rw [h.toOption_ofReport, if_pos ⟨hbytes, hzero⟩, h.toOption_withoutComma hwhole hfraction]

theorem toOption_eq_withCommaAsPoint (h : IsLoneComma s whole fraction)
    (hgroups : ¬(byteLength fraction = 3 ∧ isZeroWhole whole = false)) :
    (ofReport s).toOption = (ofReport (withCommaAsPoint s)).toOption := by
  rw [h.toOption_ofReport, if_neg hgroups, h.toOption_withCommaAsPoint]

/-- A fraction with another character than numbers have is rejected, whatever becomes of the comma. -/
theorem toOption_eq_none (h : IsLoneComma s whole fraction) (hnumber : ¬AreNumberChars fraction) :
    (ofReport s).toOption = none ∧ (ofReport (withCommaAsPoint s)).toOption = none := by
  have hnone : ∀ cs, fraction ⊆ cs → plainAmount? cs = none := by
    intro cs hsub
    rw [Option.eq_none_iff_forall_ne_some]
    exact fun d hd => hnumber fun c hc => areNumberChars_of_plainAmount? hd c (hsub hc)
  have hpoint : fraction ⊆ whole ++ '.' :: fraction := fun c hc => List.mem_append_right _ (List.mem_cons_of_mem _ hc)
  refine ⟨?_, by rw [h.toOption_withCommaAsPoint, hnone _ hpoint]⟩
  rw [h.toOption_ofReport]
  split
  next => exact hnone _ (List.subset_append_right _ _)
  next => exact hnone _ hpoint

end IsLoneComma

/-- The rule is followed exactly where the comma before three characters that are no digits makes no difference;
where it makes one, the text is read without its comma. -/
theorem followsRule_iff (h : IsLoneComma s whole fraction) :
    (FollowsRule s whole fraction ↔
      (TakenForThousands whole fraction → SameAmount (withoutComma s) (withCommaAsPoint s))) ∧
      (TakenForThousands whole fraction → SameAmount s (withoutComma s)) := by
  by_cases hgroups : byteLength fraction = 3 ∧ isZeroWhole whole = false
  -- the comma is dropped
  · obtain ⟨hbytes, hzero⟩ := hgroups
    have hwithout := h.toOption_eq_withoutComma hbytes hzero
    have hsame := sameAmount_of_toOption_eq hwithout
    refine ⟨?_, fun _ => hsame⟩
    by_cases hthree : AreThreeDigits fraction
    · exact iff_of_true ⟨fun _ => hsame, fun hnot => absurd ⟨hthree, hzero⟩ hnot⟩
        fun htaken => absurd hthree.2 htaken.notDigits
    have hrule : FollowsRule s whole fraction ↔ SameAmount s (withCommaAsPoint s) :=
      ⟨fun hrule => hrule.point fun hgroups => hthree hgroups.1,
        fun hpoint => ⟨fun hgroups => absurd hgroups.1 hthree, fun _ => hpoint⟩⟩
    rw [hrule, sameAmount_iff, sameAmount_iff, ← hwithout]
    by_cases hnumber : AreNumberChars fraction
    · have hlength : fraction.length = 3 := (byteLength_of_areNumberChars hnumber).symm.trans hbytes
      have htaken : TakenForThousands whole fraction :=
        ⟨hlength, hnumber, fun hall => hthree ⟨hlength, hall⟩, hzero⟩
      exact ⟨fun hpoint _ => hpoint, fun hpoint => hpoint htaken⟩
    · obtain ⟨hnone, hpoint⟩ := h.toOption_eq_none hnumber
      rw [hnone, hpoint]
      exact iff_of_true .none fun htaken => absurd htaken.chars hnumber
  -- the comma is the decimal mark
  · have hpoint := sameAmount_of_toOption_eq (h.toOption_eq_withCommaAsPoint hgroups)
    have hnotTaken : ¬TakenForThousands whole fraction := fun htaken =>
      hgroups ⟨(byteLength_of_areNumberChars htaken.chars).trans htaken.length, htaken.notZero⟩
    refine ⟨iff_of_true ⟨fun hthree => ?_, fun _ => hpoint⟩ ?_, ?_⟩
    · exact absurd ⟨hthree.1.byteLength, hthree.2⟩ hgroups
    · exact fun htaken => absurd htaken hnotTaken
    · exact fun htaken => absurd htaken hnotTaken

/-- A fraction with an exponent, of four characters, and blanks around the amount. -/
theorem followsRule_iff_longFraction :
    IsLoneComma " 12,5e-7\n" ['1', '2'] ['5', 'e', '-', '7'] ∧
      (FollowsRule " 12,5e-7\n" ['1', '2'] ['5', 'e', '-', '7'] ↔
        (TakenForThousands ['1', '2'] ['5', 'e', '-', '7'] →
          SameAmount (withoutComma " 12,5e-7\n") (withCommaAsPoint " 12,5e-7\n"))) ∧
      (TakenForThousands ['1', '2'] ['5', 'e', '-', '7'] → SameAmount " 12,5e-7\n" (withoutComma " 12,5e-7\n")) := by
  have hlone : IsLoneComma " 12,5e-7\n" ['1', '2'] ['5', 'e', '-', '7'] := ⟨by decide, by decide, by decide⟩
  exact ⟨hlone, followsRule_iff hlone⟩

/-- Fifteen, written with an exponent of one, is read as a hundred and fifty. -/
theorem not_followsRule_shortFraction :
    IsLoneComma "1,5e1" ['1'] ['5', 'e', '1'] ∧ ofReport "1,5e1" = .ok (.ofNat 150) ∧
      ofReport (withCommaAsPoint "1,5e1") = .ok (.ofNat 15) ∧ ¬FollowsRule "1,5e1" ['1'] ['5', 'e', '1'] := by
  have hlone : IsLoneComma "1,5e1" ['1'] ['5', 'e', '1'] := ⟨by decide, by decide, by decide⟩
  have hread : ofReport "1,5e1" = .ok (.ofNat 150) := by decide +kernel
  have hpoint : ofReport (withCommaAsPoint "1,5e1") = .ok (.ofNat 15) := by decide +kernel
  have hdiffer : ¬SameAmount "1,5e1" (withCommaAsPoint "1,5e1") := by
    rintro (⟨hs, ht, hvalue⟩ | ⟨hs, -⟩)
    · rw [hread] at hs
      rw [hpoint] at ht
      cases hs
      cases ht
      exact absurd hvalue (by decide)
    · rw [hread] at hs
      exact nomatch hs
  refine ⟨hlone, hread, hpoint, fun hrule => hdiffer (hrule.point fun hthree => ?_)⟩
  exact absurd (hthree.1.2 'e' (by simp)) (by decide)

end CostJournal.Amount
