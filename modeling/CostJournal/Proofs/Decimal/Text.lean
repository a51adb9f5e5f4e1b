import CostJournal.Proofs.Text.Digits
import Mathlib.Tactic.SplitIfs

/-!
# Decimals and their text

The text of a decimal is read as that decimal, to the last place, unless it is a negative zero
(`ofAnyText_toText`). Digits around a point are read whatever their number is, if only the whole part leaves
room for one more (`ofChars_isOk`).
-/

namespace CostJournal.Decimal
open Json

variable {negative started : Bool} {data scale : Nat} {hd : data < coefficientLimit} {hs : scale ≤ maxScale}
  {c : Char} {cs rest : List Char}

theorem readDigits_whole_cons (hc : c.isDigit = true) (h : data * 10 + digitValue c < coefficientLimit) :
    readDigits negative data scale hd hs false started (c :: rest) =
      readDigits negative (data * 10 + digitValue c) 0 h (Nat.zero_le _) false true rest := by
  rw [readDigits, dif_neg (by simp)]
  simp only [digit?_of_isDigit hc]
  rw [dif_pos h, dif_neg (by simp)]

theorem readDigits_fraction_cons (hc : c.isDigit = true) (h : data * 10 + digitValue c < coefficientLimit)
    (hscale : scale < maxScale) :
    readDigits negative data scale hd hs true started (c :: rest) =
      readDigits negative (data * 10 + digitValue c) (scale + 1) h hscale true true rest := by
  rw [readDigits, dif_neg (by simp [Nat.ne_of_lt hscale])]
  simp only [digit?_of_isDigit hc]
  rw [dif_pos h, dif_pos trivial]

theorem readDigits_point :
    readDigits negative data scale hd hs false started ('.' :: rest) =
      readDigits negative data scale hd hs true started rest := by
  rw [readDigits, dif_neg (by simp)]
  rfl

theorem readDigits_whole (hcs : AreDigits cs) (hne : cs ≠ []) (h : digitsValue data cs < coefficientLimit) :
    readDigits negative data scale hd hs false started (cs ++ rest) =
      readDigits negative (digitsValue data cs) 0 h (Nat.zero_le _) false true rest := by
  induction cs generalizing data scale started with
  | nil => exact absurd rfl hne
  | cons c cs ih =>
    have hstep : data * 10 + digitValue c < coefficientLimit := Nat.lt_of_le_of_lt (le_digitsValue _ cs) h
    rw [List.cons_append, readDigits_whole_cons hcs.head hstep]
    match cs with
    | [] => rfl
    | c' :: cs => exact ih hcs.tail (List.cons_ne_nil _ _) h

theorem readDigits_fraction (hcs : AreDigits cs) (hscale : scale + cs.length ≤ maxScale)
    (h : digitsValue data cs < coefficientLimit) :
    readDigits negative data scale hd hs true true cs =
      .ok (signed negative (digitsValue data cs) (scale + cs.length) h hscale) := by
  induction cs generalizing data scale with
  | nil => rfl
  | cons c cs ih =>
    have hstep : data * 10 + digitValue c < coefficientLimit := Nat.lt_of_le_of_lt (le_digitsValue _ cs) h
    rw [List.length_cons] at hscale
    rw [readDigits_fraction_cons hcs.head hstep (by omega), ih hcs.tail (by omega) h]
    congr 2
    rw [List.length_cons]
    omega

theorem ofChars_unsigned (hcs : AreDigits cs) (hne : cs ≠ []) (rest : List Char) :
    ofChars (cs ++ rest) = readDigits false 0 0 coefficientLimit_pos (Nat.zero_le _) false false (cs ++ rest) := by
  match cs with
  | [] => exact absurd rfl hne
  | c :: cs =>
    unfold ofChars
    split
    next heq => exact nomatch heq
    next heq =>
      cases heq
      exact absurd hcs.head (by decide)
    next heq =>
      cases heq
      exact absurd hcs.head (by decide)
    next => rfl

/-- A sign is read off before the digits. -/
theorem ofChars_signed (negative : Bool) (hcs : AreDigits cs) (hne : cs ≠ []) (rest : List Char) :
    ofChars (if negative then '-' :: (cs ++ rest) else cs ++ rest) =
      readDigits negative 0 0 coefficientLimit_pos (Nat.zero_le _) false false (cs ++ rest) := by
  cases negative with
  | true => rfl
  | false => exact ofChars_unsigned hcs hne rest

def IsNegativeZero (d : Decimal) : Prop := d.negative = true ∧ d.magnitude = 0

instance (d : Decimal) : Decidable d.IsNegativeZero := inferInstanceAs (Decidable (_ ∧ _))

theorem signed_eq {d : Decimal} (h : ¬d.IsNegativeZero) :
    signed d.negative d.magnitude d.scale d.magnitude_lt d.scale_le = d := by
  ext
  · show (d.negative && d.magnitude != 0) = d.negative
    cases hn : d.negative with
    | false => rfl
    | true =>
      have hm : d.magnitude ≠ 0 := fun hm => h ⟨hn, hm⟩
      simp [hm]
  · rfl
  · rfl

theorem signed_congr {data' scale' : Nat} {hd' : data' < coefficientLimit} {hs' : scale' ≤ maxScale}
    (hdata : data = data') (hscale : scale = scale') :
    signed negative data scale hd hs = signed negative data' scale' hd' hs' := by
  subst hdata hscale
  rfl

/-- The point of a decimal with places, and its places. -/
def pointChars (d : Decimal) : List Char := if d.scale = 0 then [] else '.' :: paddedDigits d.scale d.magnitude

theorem toChars_eq (d : Decimal) : d.toChars =
    if d.negative then '-' :: (digits (d.magnitude / tenPow d.scale) ++ d.pointChars)
    else digits (d.magnitude / tenPow d.scale) ++ d.pointChars := by
  by_cases hscale : d.scale = 0
  · simp [toChars, pointChars, hscale]
  · simp [toChars, pointChars, hscale]

theorem ofText_toText {d : Decimal} (h : ¬d.IsNegativeZero) : ofText d.toText = .ok d := by
  have hwhole := areDigits_digits (d.magnitude / tenPow d.scale)
  have hne := digits_ne_nil (d.magnitude / tenPow d.scale)
  have hvalue : digitsValue 0 (digits (d.magnitude / tenPow d.scale)) < coefficientLimit := by
    rw [digitsValue_digits]
    exact Nat.lt_of_le_of_lt (Nat.div_le_self _ _) d.magnitude_lt
  rw [ofText, toText, String.toList_ofList, toChars_eq, ofChars_signed _ hwhole hne,
    readDigits_whole hwhole hne hvalue, pointChars]
  by_cases hscale : d.scale = 0
  · rw [if_pos hscale]
    refine congrArg Except.ok ((signed_congr ?_ hscale.symm).trans (signed_eq h))
    rw [digitsValue_digits, hscale, tenPow_zero, Nat.div_one]
  · rw [if_neg hscale, readDigits_point]
    have hlength := length_paddedDigits d.scale d.magnitude
    have hmagnitude : digitsValue (digitsValue 0 (digits (d.magnitude / tenPow d.scale)))
        (paddedDigits d.scale d.magnitude) = d.magnitude := by
      rw [digitsValue_digits, digitsValue_paddedDigits]
      exact Nat.div_add_mod' _ _
    rw [readDigits_fraction (areDigits_paddedDigits _ _) (by rw [hlength, Nat.zero_add]; exact d.scale_le)
      (by rw [hmagnitude]; exact d.magnitude_lt)]
    exact congrArg Except.ok ((signed_congr hmagnitude (by rw [hlength, Nat.zero_add])).trans (signed_eq h))

theorem ofAnyText_toText {d : Decimal} (h : ¬d.IsNegativeZero) : ofAnyText d.toText = .ok d := by
  rw [ofAnyText, ofText_toText h]

theorem firstDropped_isOk (hcs : AreDigits cs) : ∃ n, firstDropped cs = .ok n := by
  have hdrop : ∀ cs, AreDigits cs → dropDigits cs = .ok () := by
    intro cs hcs
    induction cs with
    | nil => rfl
    | cons c cs ih =>
      rw [dropDigits, digit?_of_isDigit hcs.head]
      exact (if_pos rfl).trans (ih hcs.tail)
  match cs with
  | [] => exact ⟨0, rfl⟩
  | c :: cs =>
    refine ⟨digitValue c, ?_⟩
    rw [firstDropped]
    simp only [digit?_of_isDigit hcs.head]
    rw [hdrop cs hcs.tail]
    rfl

theorem finishRounded_isOk (hcs : AreDigits cs) (hroom : data + 1 < coefficientLimit ∨ scale ≠ 0) :
    ∃ d, finishRounded negative data scale hd hs cs = .ok d := by
  obtain ⟨n, hn⟩ := firstDropped_isOk hcs
  unfold finishRounded
  rw [hn]
  simp only
  split_ifs with hdown hup hscale
  · exact ⟨_, rfl⟩
  · exact ⟨_, rfl⟩
  · exact absurd hscale (hroom.resolve_left hup)
  · exact ⟨_, rfl⟩

/-- Whatever digits follow a point are read, or rounded off where no more fit. -/
theorem readDigits_fraction_isOk (hcs : AreDigits cs) (hroom : data + 1 < coefficientLimit ∨ scale ≠ 0) :
    ∃ d, readDigits negative data scale hd hs true true cs = .ok d := by
  induction cs generalizing data scale with
  | nil => exact ⟨_, rfl⟩
  | cons c cs ih =>
    by_cases hscale : scale = maxScale
    · rw [readDigits, dif_pos (by simp [hscale])]
      exact finishRounded_isOk hcs hroom
    · by_cases hfits : data * 10 + digitValue c < coefficientLimit
      · rw [readDigits_fraction_cons hcs.head hfits (by omega)]
        exact ih hcs.tail (.inr (Nat.succ_ne_zero _))
      · rw [readDigits, dif_neg (by simp [hscale])]
        simp only [digit?_of_isDigit hcs.head]
        rw [dif_neg hfits, if_pos trivial]
        exact finishRounded_isOk hcs hroom

/-- Digits are read if they leave room for one more, whatever digits follow a point. -/
theorem ofChars_isOk (negative : Bool) (hcs : AreDigits cs) (hne : cs ≠ []) (hroom : digitsValue 0 cs + 1 < coefficientLimit)
    (hrest : rest = [] ∨ ∃ fraction, rest = '.' :: fraction ∧ AreDigits fraction) :
    ∃ d, ofChars (if negative then '-' :: (cs ++ rest) else cs ++ rest) = .ok d := by
  rw [ofChars_signed _ hcs hne, readDigits_whole hcs hne (Nat.lt_of_succ_lt hroom)]
  rcases hrest with rfl | ⟨fraction, rfl, hfraction⟩
  · exact ⟨_, rfl⟩
  · rw [readDigits_point]
    exact readDigits_fraction_isOk hfraction (.inl hroom)

end CostJournal.Decimal
