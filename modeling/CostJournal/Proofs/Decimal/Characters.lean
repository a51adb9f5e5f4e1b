import CostJournal.Decimal.Text
import CostJournal.Proofs.Returns
import CostJournal.Proofs.Text.Digits
import Mathlib.Data.List.TakeDrop

/-!
# Characters of decimals

Whatever text is read as a decimal, it has no other characters than digits, signs, points, underscores and exponent
marks (`areNumberChars_of_ofAnyText`).
-/

namespace CostJournal.Decimal

variable {negative point started : Bool} {data scale n : Nat} {hd : data < coefficientLimit} {hs : scale ≤ maxScale}
  {d : Decimal} {c : Char} {cs ds : List Char}

def isNumberChar (c : Char) : Bool := c.isDigit || ['+', '-', '.', '_', 'e', 'E'].contains c

theorem isNumberChar_of_digit? (h : digit? c = some n) : isNumberChar c = true := by
  rw [isNumberChar, ← isSome_digit?, h]
  rfl

theorem isNumberChar_of_isExponentMark (h : isExponentMark c = true) : isNumberChar c = true := by
  rcases Bool.or_eq_true _ _ |>.mp h with h | h
  · rw [beq_iff_eq.mp h]
    rfl
  · rw [beq_iff_eq.mp h]
    rfl

def AreNumberChars (cs : List Char) : Prop := ∀ c ∈ cs, isNumberChar c = true

namespace AreNumberChars

theorem nil : AreNumberChars [] := fun _ h => nomatch h

theorem cons (hc : isNumberChar c = true) (h : AreNumberChars cs) : AreNumberChars (c :: cs) :=
  List.forall_mem_cons.mpr ⟨hc, h⟩

theorem append (hcs : AreNumberChars cs) (hds : AreNumberChars ds) : AreNumberChars (cs ++ ds) :=
  List.forall_mem_append.mpr ⟨hcs, hds⟩

end AreNumberChars

theorem areNumberChars_of_dropDigits (h : dropDigits cs = .ok ()) : AreNumberChars cs := by
  fun_induction dropDigits cs with
  | case1 => exact .nil
  | case2 c cs hc ih =>
    refine .cons ?_ (ih h)
    rcases Bool.or_eq_true _ _ |>.mp hc with hdigit | hunderscore
    · exact isNumberChar_of_digit? (Option.some_get hdigit).symm
    · rw [beq_iff_eq.mp hunderscore]
      rfl
  | case3 => exact nomatch h
  | case4 => exact nomatch h

theorem areNumberChars_of_firstDropped (h : firstDropped cs = .ok n) : AreNumberChars cs := by
  fun_induction firstDropped cs with
  | case1 => exact .nil
  | case2 c cs k hk =>
    refine .cons (isNumberChar_of_digit? hk) ?_
    match hdrop : dropDigits cs with
    | .ok () => exact areNumberChars_of_dropDigits hdrop
    | .error e =>
      rw [hdrop] at h
      exact nomatch h
  | case3 cs _ ih => exact .cons rfl (ih h)
  | case4 => exact nomatch h
  | case5 => exact nomatch h

theorem areNumberChars_of_finishRounded (h : finishRounded negative data scale hd hs cs = .ok d) :
    AreNumberChars cs := by
  unfold finishRounded at h
  split at h
  next => exact nomatch h
  next hn => exact areNumberChars_of_firstDropped hn

theorem areNumberChars_of_readDigits (h : readDigits negative data scale hd hs point started cs = .ok d) :
    AreNumberChars cs := by
  fun_induction readDigits negative data scale hd hs point started cs with
  | case1 => exact .nil
  -- nothing more fits
  | case3 | case6 => exact areNumberChars_of_finishRounded h
  | case4 _ _ _ _ _ _ _ _ hc _ _ ih | case5 _ _ _ _ _ _ _ _ _ _ hc _ _ ih =>
    exact .cons (isNumberChar_of_digit? hc) (ih h)
  -- a point or an underscore
  | case9 _ _ _ _ _ _ _ _ _ _ ih | case10 _ _ _ _ _ _ _ _ _ ih => exact .cons rfl (ih h)
  | case2 | case7 | case8 | case11 | case12 => exact nomatch h

theorem areNumberChars_of_ofChars (h : ofChars cs = .ok d) : AreNumberChars cs := by
  unfold ofChars at h
  split at h
  next => exact .nil
  next => exact .cons rfl (areNumberChars_of_readDigits h)
  next => exact .cons rfl (areNumberChars_of_readDigits h)
  next => exact areNumberChars_of_readDigits h

theorem areNumberChars_of_natOfDigits? (h : natOfDigits? cs = some n) : AreNumberChars cs := by
  have hfold : ∀ cs k, cs.foldlM pushDigit? k = some n → AreNumberChars cs := by
    intro cs
    induction cs with
    | nil => exact fun _ _ => .nil
    | cons c cs ih =>
      intro k hk
      rw [List.foldlM_cons, Option.bind_eq_bind, Option.bind_eq_some_iff] at hk
      obtain ⟨k', hpush, hk⟩ := hk
      obtain ⟨digit, hdigit, -⟩ := Option.map_eq_some_iff.mp hpush
      exact .cons (isNumberChar_of_digit? hdigit) (ih k' hk)
  match cs with
  | [] => exact .nil
  | c :: cs => exact hfold (c :: cs) 0 h

theorem areNumberChars_of_exponent? (h : exponent? cs = some n) : AreNumberChars cs := by
  unfold exponent? at h
  have hdigits := (Option.filter_eq_some_iff.mp h).1
  split at hdigits
  next => exact .cons rfl (areNumberChars_of_natOfDigits? hdigits)
  next => exact areNumberChars_of_natOfDigits? hdigits

theorem areNumberChars_of_ofScientific {s : String} (h : ofScientific s = .ok d) : AreNumberChars s.toList := by
  have hhead := List.head?_dropWhile_not (!isExponentMark ·) s.toList
  unfold ofScientific at h
  rw [List.span_eq_takeWhile_dropWhile] at h
  rw [← List.takeWhile_append_dropWhile (p := (!isExponentMark ·)) (l := s.toList)]
  generalize s.toList.takeWhile (!isExponentMark ·) = base, s.toList.dropWhile (!isExponentMark ·) = rest at h hhead
  match rest with
  | [] => exact nomatch h
  | mark :: exponent =>
    obtain ⟨_, hbase, h⟩ := bind_eq_ok.mp h
    refine (areNumberChars_of_ofChars hbase).append (.cons (isNumberChar_of_isExponentMark (by simpa using hhead)) ?_)
    split at h
    next =>
      split at h
      next hdown => exact .cons rfl (areNumberChars_of_exponent? hdown)
      next => exact nomatch h
    next =>
      split at h
      next hup => exact areNumberChars_of_exponent? hup
      next => exact nomatch h

theorem areNumberChars_of_ofAnyText {s : String} (h : ofAnyText s = .ok d) : AreNumberChars s.toList := by
  unfold ofAnyText at h
  split at h
  next hread => exact areNumberChars_of_ofChars hread
  next => exact areNumberChars_of_ofScientific h

end CostJournal.Decimal
