import CostJournal.Json.Decode
import CostJournal.Json.Reader
import CostJournal.Proofs.Text.Digits
import Mathlib.Data.List.TakeDrop

/-!
# Numbers and their text

A numeral that can be written (`Numeral.IsWritten`) is read back whole from its text, whatever follows
that is no part of a number (`readNumber_toChars`), and its text has the parts that it was made of
(`Numeral.ofChars_toChars`).
-/

namespace CostJournal.Json

/-- No number goes on with this text. -/
def EndsNumber (rest : List Char) : Prop := ∀ c ∈ rest.head?, c.isDigit = false ∧ c ≠ '.' ∧ c ≠ 'e' ∧ c ≠ 'E'

theorem EndsNumber.nil : EndsNumber [] := fun _ h => nomatch h

theorem EndsNumber.cons {c : Char} (h : c.isDigit = false ∧ c ≠ '.' ∧ c ≠ 'e' ∧ c ≠ 'E') (rest : List Char) :
    EndsNumber (c :: rest) := by
  rintro _ ⟨⟩
  exact h

theorem span_isDigit {ds rest : List Char} (hds : AreDigits ds) (hrest : ∀ c ∈ rest.head?, c.isDigit = false) :
    (ds ++ rest).span Char.isDigit = (ds, rest) := by
  rw [List.span_eq_takeWhile_dropWhile, List.takeWhile_append_of_pos hds, List.dropWhile_append_of_pos hds]
  match rest with
  | [] => simp
  | c :: rest => simp [hrest c rfl]

theorem takeNumber?_append {ds rest : List Char} (hds : AreDigits ds) (hne : ds ≠ [])
    (hrest : ∀ c ∈ rest.head?, c.isDigit = false) : takeNumber? (ds ++ rest) = some (ds, rest) := by
  rw [takeNumber?, span_isDigit hds hrest]
  cases ds with
  | nil => exact absurd rfl hne
  | cons _ _ => rfl

namespace Numeral

def signChars : Bool → List Char
  | true => ['-']
  | false => []

def fractionChars : List Char → List Char
  | [] => []
  | ds => '.' :: ds

def exponentChars : Option (Bool × List Char) → List Char
  | none => []
  | some (down, ds) => 'e' :: (if down then '-' else '+') :: ds

/-- A text with these parts. -/
def toChars (n : Numeral) : List Char :=
  signChars n.negative ++ (n.whole ++ (fractionChars n.fraction ++ exponentChars n.exponent))

/-- A zero, or digits that do not start with one. -/
def IsWhole (ds : List Char) : Prop := ds = ['0'] ∨ AreDigits ds ∧ ds ≠ [] ∧ ds.head? ≠ some '0'

theorem IsWhole.areDigits {ds : List Char} (h : IsWhole ds) : AreDigits ds := by
  rcases h with rfl | h
  · exact .cons rfl .nil
  · exact h.1

theorem IsWhole.ne_nil {ds : List Char} (h : IsWhole ds) : ds ≠ [] := by
  rcases h with rfl | h
  · exact List.cons_ne_nil _ _
  · exact h.2.1

theorem isWhole_digits (n : Nat) : IsWhole (digits n) := by
  by_cases h : n = 0
  · subst h
    exact .inl digits_zero
  · exact .inr ⟨areDigits_digits n, digits_ne_nil n, head_digits_ne_zero h⟩

/-- The parts are those of a number that is not read otherwise. -/
structure IsWritten (n : Numeral) : Prop where
  whole : IsWhole n.whole
  fraction : AreDigits n.fraction
  exponent : ∀ e ∈ n.exponent, AreDigits e.2 ∧ e.2 ≠ []

theorem not_isDigit_exponentChars (exponent : Option (Bool × List Char)) {rest : List Char}
    (hrest : EndsNumber rest) : ∀ c ∈ (exponentChars exponent ++ rest).head?, c.isDigit = false ∧ c ≠ '.' := by
  intro c hc
  cases exponent with
  | none => exact ⟨(hrest c hc).1, (hrest c hc).2.1⟩
  | some e =>
    cases hc
    decide

theorem not_isDigit_fractionChars (fraction : List Char) {cs : List Char} (h : ∀ c ∈ cs.head?, c.isDigit = false) :
    ∀ c ∈ (fractionChars fraction ++ cs).head?, c.isDigit = false := by
  intro c hc
  cases fraction with
  | nil => exact h c hc
  | cons _ _ =>
    cases hc
    rfl

theorem readWhole_append {ds rest : List Char} (hds : IsWhole ds) (hrest : ∀ c ∈ rest.head?, c.isDigit = false) :
    readWhole (ds ++ rest) = some (ds, rest) := by
  rcases hds with rfl | ⟨hdigits, hne, hzero⟩
  · rfl
  · unfold readWhole
    split
    next heq =>
      match ds with
      | [] => exact absurd rfl hne
      | c :: ds =>
        cases heq
        exact absurd rfl hzero
    next => exact takeNumber?_append hdigits hne hrest

theorem readFraction_append {ds rest : List Char} (hds : AreDigits ds)
    (hrest : ∀ c ∈ rest.head?, c.isDigit = false ∧ c ≠ '.') :
    readFraction (fractionChars ds ++ rest) = some (fractionChars ds, rest) := by
  match ds with
  | [] =>
    show readFraction rest = some ([], rest)
    unfold readFraction
    split
    next => exact absurd rfl (hrest '.' rfl).2
    next => rfl
  | d :: ds =>
    show (takeNumber? ((d :: ds) ++ rest)).map _ = _
    rw [takeNumber?_append hds (List.cons_ne_nil d ds) fun c hc => (hrest c hc).1]
    rfl

theorem readExponent_append {exponent : Option (Bool × List Char)} {rest : List Char}
    (hexponent : ∀ e ∈ exponent, AreDigits e.2 ∧ e.2 ≠ []) (hrest : EndsNumber rest) :
    readExponent (exponentChars exponent ++ rest) = some (exponentChars exponent, rest) := by
  cases exponent with
  | none =>
    match rest with
    | [] => rfl
    | c :: rest =>
      obtain ⟨-, -, he, hE⟩ := hrest c rfl
      show readExponent (c :: rest) = some ([], c :: rest)
      rw [readExponent.eq_def]
      exact if_neg (not_or.mpr ⟨he, hE⟩)
  | some e =>
    obtain ⟨hds, hne⟩ := hexponent e rfl
    have htake := takeNumber?_append hds hne fun c hc => (hrest c hc).1
    match e with
    | (true, ds) =>
      show (takeNumber? (ds ++ rest)).map _ = _
      rw [htake]
      rfl
    | (false, ds) =>
      show (takeNumber? (ds ++ rest)).map _ = _
      rw [htake]
      rfl

variable {n : Numeral}

theorem head_whole_ne_minus (h : IsWhole n.whole) (rest : List Char) : (n.whole ++ rest).head? ≠ some '-' := by
  match hwhole : n.whole with
  | [] => exact absurd hwhole h.ne_nil
  | c :: cs =>
    rintro ⟨⟩
    have hdigits := h.areDigits
    rw [hwhole] at hdigits
    exact absurd hdigits.head (by decide)

/-- The text starts with a sign or a digit. -/
theorem exists_toChars (h : n.IsWritten) : ∃ c cs, n.toChars = c :: cs ∧ (c = '-' ∨ c.isDigit = true) := by
  unfold toChars
  match n.negative with
  | true => exact ⟨'-', _, rfl, .inl rfl⟩
  | false =>
    match hwhole : n.whole with
    | [] => exact absurd hwhole h.whole.ne_nil
    | c :: cs =>
      have hdigits := h.whole.areDigits
      rw [hwhole] at hdigits
      exact ⟨c, _, rfl, .inr hdigits.head⟩

theorem readNumber_toChars (h : n.IsWritten) {rest : List Char} (hrest : EndsNumber rest) :
    readNumber (n.toChars ++ rest) = some (.number (String.ofList n.toChars), rest) := by
  have hexponent := readExponent_append h.exponent hrest
  have hends := not_isDigit_exponentChars n.exponent hrest
  have hfraction := readFraction_append h.fraction hends
  have hwhole := readWhole_append h.whole (not_isDigit_fractionChars n.fraction fun c hc => (hends c hc).1)
  have hsign := head_whole_ne_minus h.whole (fractionChars n.fraction ++ (exponentChars n.exponent ++ rest))
  unfold toChars
  simp only [List.append_assoc]
  generalize hcs : n.whole ++ (fractionChars n.fraction ++ (exponentChars n.exponent ++ rest)) = cs at hwhole hsign
  have hread : readNumber (signChars n.negative ++ cs) =
      (readWhole cs).bind fun w => (readFraction w.2).bind fun f => (readExponent f.2).bind fun e =>
        some (.number (String.ofList (signChars n.negative ++ w.1 ++ f.1 ++ e.1)), e.2) := by
    cases n.negative with
    | true => rfl
    | false =>
      match cs with
      | [] => rfl
      | c :: cs =>
        show readNumber (c :: cs) = _
        unfold readNumber
        split
        next heq =>
          split at heq
          next hminus =>
            cases hminus
            exact absurd rfl hsign
          next =>
            cases heq
            rfl
  rw [hread, hwhole, Option.bind_some, hfraction, Option.bind_some, hexponent, Option.bind_some]
  simp only [List.append_assoc]

theorem ofChars_toChars (h : n.IsWritten) : ofChars n.toChars = n := by
  obtain ⟨negative, whole, fraction, exponent⟩ := n
  have hends : ∀ c ∈ (exponentChars exponent).head?, c.isDigit = false ∧ c ≠ '.' := by
    have := not_isDigit_exponentChars exponent EndsNumber.nil
    rwa [List.append_nil] at this
  have hfraction : (if (fractionChars fraction ++ exponentChars exponent).head? == some '.' then
      ((fractionChars fraction ++ exponentChars exponent).drop 1).span Char.isDigit
      else ([], fractionChars fraction ++ exponentChars exponent)) = (fraction, exponentChars exponent) := by
    cases fraction with
    | nil =>
      refine if_neg fun hpoint => ?_
      exact (hends '.' (beq_iff_eq.mp hpoint)).2 rfl
    | cons d ds => exact span_isDigit h.fraction fun c hc => (hends c hc).1
  have hwhole := span_isDigit h.whole.areDigits (not_isDigit_fractionChars fraction fun c hc => (hends c hc).1)
  have hhead := head_whole_ne_minus h.whole (fractionChars fraction ++ exponentChars exponent)
  unfold ofChars toChars
  generalize whole ++ (fractionChars fraction ++ exponentChars exponent) = unsigned at hwhole hhead
  have hsign : ((signChars negative ++ unsigned).head? == some '-') = negative := by
    cases negative with
    | true => rfl
    | false => exact beq_eq_false_iff_ne.mpr hhead
  have hunsigned : (if negative then (signChars negative ++ unsigned).drop 1 else signChars negative ++ unsigned) =
      unsigned := by
    cases negative <;> rfl
  simp only [hsign, hunsigned, hwhole, hfraction]
  cases exponent with
  | none => rfl
  | some e => match e with | (true, _) | (false, _) => rfl

end Numeral

theorem takeDigits_of_lt {significand : Nat} {ds : List Char} (h : digitsValue significand ds < twoPow 64) :
    takeDigits significand ds = (digitsValue significand ds, []) := by
  induction ds generalizing significand with
  | nil => rfl
  | cons d ds ih =>
    rw [takeDigits]
    exact (if_pos (Nat.lt_of_le_of_lt (le_digitsValue _ ds) h)).trans (ih h)

/-- The parts of a natural. -/
def naturalNumeral (n : Nat) : Numeral := ⟨false, digits n, [], none⟩

theorem toChars_naturalNumeral (n : Nat) : (naturalNumeral n).toChars = digits n := List.append_nil _

theorem isWritten_naturalNumeral (n : Nat) : (naturalNumeral n).IsWritten :=
  ⟨Numeral.isWhole_digits n, .nil, fun _ h => nomatch h⟩

theorem numberValue?_digits {n : Nat} (h : n < twoPow 64) :
    numberValue? (String.ofList (digits n)) = some (.integer n) := by
  have hparts := Numeral.ofChars_toChars (isWritten_naturalNumeral n)
  have htake : takeDigits 0 (digits n) = (n, []) := by
    have := @takeDigits_of_lt 0 (digits n)
    rw [digitsValue_digits] at this
    exact this h
  rw [toChars_naturalNumeral] at hparts
  unfold numberValue?
  rw [String.toList_ofList, hparts]
  simp only [naturalNumeral, htake]
  rfl

theorem natural?_ofNat {limit n : Nat} (h : n < limit) (hlimit : limit ≤ twoPow 64) :
    natural? limit (ofNat n) = some n := by
  have hinteger : integer? (ofNat n) = some (n : Int) := by
    unfold ofNat integer?
    simp only [numberValue?_digits (Nat.lt_of_lt_of_le h hlimit)]
  rw [natural?, hinteger]
  exact if_pos ⟨Int.natCast_nonneg n, Int.ofNat_lt.mpr h⟩

end CostJournal.Json
