import CostJournal.Proofs.Amount.Separators
import CostJournal.Proofs.Decimal.Text

/-!
# Amounts that are read back

A decimal can be written plainly, or with marks between the thousands of its whole part. Written with commas for
marks it is always read back, to the last place; written with points for marks and a comma before the places
it is read back unless that comma looks like a mark: `ofReport_notations`.
-/

namespace CostJournal

/-- Digits with a mark before every group of three that follows other digits. -/
def grouped (mark : Char) : List Char → List Char
  | [] => []
  | c :: cs => if cs.length % 3 = 0 ∧ cs ≠ [] then c :: mark :: grouped mark cs else c :: grouped mark cs

section
variable {mark c : Char} {cs : List Char}

theorem mem_grouped (h : c ∈ grouped mark cs) : c = mark ∨ c ∈ cs := by
  induction cs with
  | nil => exact nomatch h
  | cons d cs ih =>
    rw [grouped] at h
    split at h
    · rcases List.mem_cons.mp h with rfl | h
      · exact .inr List.mem_cons_self
      rcases List.mem_cons.mp h with rfl | h
      · exact .inl rfl
      · exact (ih h).imp_right (List.mem_cons_of_mem _)
    · rcases List.mem_cons.mp h with rfl | h
      · exact .inr List.mem_cons_self
      · exact (ih h).imp_right (List.mem_cons_of_mem _)

theorem notMem_grouped (h : c ∉ cs) (hne : c ≠ mark) : c ∉ grouped mark cs :=
  fun hmem => (mem_grouped hmem).elim hne h

/-- Without its marks, the text is the digits. -/
theorem filter_grouped (h : mark ∉ cs) : (grouped mark cs).filter (· != mark) = cs := by
  induction cs with
  | nil => rfl
  | cons c cs ih =>
    obtain ⟨hc, hcs⟩ := not_or.mp (mt List.mem_cons.mpr h)
    have hkeep : (c != mark) = true := bne_iff_ne.mpr (Ne.symm hc)
    rw [grouped]
    split
    · rw [List.filter_cons, if_pos hkeep, List.filter_cons_of_neg (by simp), ih hcs]
    · rw [List.filter_cons, if_pos hkeep, ih hcs]

theorem grouped_of_length_le (h : cs.length ≤ 3) : grouped mark cs = cs := by
  induction cs with
  | nil => rfl
  | cons c cs ih =>
    rw [List.length_cons] at h
    have hshort : ¬(cs.length % 3 = 0 ∧ cs ≠ []) := by
      rintro ⟨hmod, hne⟩
      have := List.length_pos_iff.mpr hne
      omega
    rw [grouped, if_neg hshort, ih (by omega)]

/-- More than three digits have a first mark, after which groups of three are left. -/
theorem exists_first_mark (mark : Char) (h : 3 < cs.length) :
    ∃ first rest, cs = first ++ rest ∧ first ≠ [] ∧ rest ≠ [] ∧ rest.length % 3 = 0 ∧
      grouped mark cs = first ++ mark :: grouped mark rest := by
  induction cs with
  | nil => exact absurd h (by decide)
  | cons c cs ih =>
    rw [List.length_cons] at h
    have hne : cs ≠ [] := List.ne_nil_of_length_pos (by omega)
    rw [grouped]
    by_cases hmod : cs.length % 3 = 0
    · rw [if_pos ⟨hmod, hne⟩]
      exact ⟨[c], cs, rfl, List.cons_ne_nil _ _, hne, hmod, rfl⟩
    · rw [if_neg fun h => hmod h.1]
      obtain ⟨first, rest, rfl, -, hrest, hgroups, heq⟩ := ih (by omega)
      exact ⟨c :: first, rest, rfl, List.cons_ne_nil _ _, hrest, hgroups, by rw [heq]; rfl⟩

end

namespace Decimal

def signChars (negative : Bool) : List Char := if negative then ['-'] else []

/-- The whole part of the magnitude. -/
def whole (d : Decimal) : Nat := d.magnitude / tenPow d.scale

/-- The text with a mark between the thousands of the whole part, and a mark of its own before the places. -/
def groupedText (d : Decimal) (mark point : Char) : String :=
  String.ofList <| signChars d.negative ++ grouped mark (digits d.whole) ++
    if d.scale = 0 then [] else point :: paddedDigits d.scale d.magnitude

theorem toChars_eq_append (d : Decimal) : d.toChars = signChars d.negative ++ (digits d.whole ++ d.pointChars) := by
  rw [toChars_eq]
  cases d.negative <;> rfl

end Decimal

namespace Amount
open Decimal

variable {d : Decimal} {negative : Bool} {n : Nat} {cs first rest : List Char}

theorem notMem_signed {c : Char} (h : c ∉ cs) (hne : c ≠ '-') : c ∉ signChars negative ++ cs := by
  cases negative with
  | false => exact h
  | true => exact List.not_mem_cons_of_ne_of_not_mem hne h

theorem hasNoSeparator_signed (h : HasNoSeparator cs) : HasNoSeparator (signChars negative ++ cs) :=
  ⟨notMem_signed h.1 (by decide), notMem_signed h.2 (by decide)⟩

theorem isZeroWhole_signed (h : AreDigits cs) : isZeroWhole (signChars negative ++ cs) = cs.all (· == '0') := by
  have hdigits : isZeroWhole cs = cs.all (· == '0') := by
    unfold isZeroWhole
    match cs with
    | [] => rfl
    | c :: cs =>
      have hsign : ¬(c == '-' || c == '+') = true := by
        intro hc
        rcases Bool.or_eq_true _ _ |>.mp hc with hc | hc
        · exact absurd (beq_iff_eq.mp hc ▸ h.head) (by decide)
        · exact absurd (beq_iff_eq.mp hc ▸ h.head) (by decide)
      rw [List.dropWhile_cons, if_neg hsign]
  cases negative with
  | false => exact hdigits
  | true => exact hdigits

/-- The first digits of a number are not all zero, unless it is zero. -/
theorem all_zero_first (h : digits n = first ++ rest) (hne : first ≠ []) :
    first.all (· == '0') = decide (n = 0) := by
  rcases eq_or_ne n 0 with rfl | hn
  · have hzeros : ∀ c ∈ first, (c == '0') = true := by
      intro c hc
      have hmem : c ∈ digits 0 := h ▸ List.mem_append_left _ hc
      rw [digits_zero, List.mem_singleton] at hmem
      exact beq_iff_eq.mpr hmem
    exact List.all_eq_true.mpr hzeros
  · match first with
    | [] => exact absurd rfl hne
    | c :: first =>
      have hhead := head_digits_ne_zero hn
      rw [h] at hhead
      have hc : (c == '0') = false := beq_eq_false_iff_ne.mpr fun heq => hhead (congrArg some heq)
      rw [List.all_cons, hc, decide_eq_false hn]
      rfl

theorem three_lt_length_digits : 3 < (digits n).length ↔ 1000 ≤ n := by
  constructor
  · intro h
    by_contra hlt
    have := length_digits_le (k := 2) (Nat.not_le.mp hlt)
    omega
  · intro h
    by_contra hle
    have hpow : ∀ k < 4, tenPow k ≤ 1000 := by decide
    have hvalue := digitsValue_lt (areDigits_digits n)
    rw [digitsValue_digits] at hvalue
    exact absurd (Nat.lt_of_lt_of_le hvalue (hpow _ (by omega))) (Nat.not_lt.mpr h)

theorem areDigits_of_digits_eq (h : digits n = first ++ rest) : AreDigits first ∧ AreDigits rest :=
  List.forall_mem_append.mp (h ▸ areDigits_digits n)

theorem filter_signed_grouped (mark : Char) (hmark : mark.isDigit = false) (hne : mark ≠ '-') :
    (signChars negative ++ grouped mark (digits n)).filter (· != mark) = signChars negative ++ digits n := by
  have hdigits : mark ∉ digits n := fun hmem => absurd ((areDigits_digits n _ hmem).symm.trans hmark) (by decide)
  have hsign : mark ∉ signChars negative := by
    rw [← List.append_nil (signChars negative)]
    exact notMem_signed List.not_mem_nil hne
  rw [List.filter_append, filter_grouped hdigits, filter_ne_of_notMem hsign]

/-- Commas between thousands are dropped, also a lone one. -/
theorem withPoint_grouped :
    withPoint (signChars negative ++ grouped ',' (digits n)) = signChars negative ++ digits n := by
  have hdigits := HasNoSeparator.of_areDigits (areDigits_digits n)
  by_cases hlong : 3 < (digits n).length
  · obtain ⟨first, rest, hds, hfirst, hrest, hgroups, heq⟩ := exists_first_mark ',' hlong
    obtain ⟨hfirstDigits, hrestDigits⟩ := areDigits_of_digits_eq hds
    by_cases hmore : 3 < rest.length
    · obtain ⟨first', rest', -, -, -, -, heq'⟩ := exists_first_mark ',' hmore
      have hseveral : 1 < (signChars negative ++ grouped ',' (digits n)).count ',' := by
        rw [heq, heq']
        simp only [List.count_append, List.count_cons_self]
        omega
      have hpoint : '.' ∉ signChars negative ++ grouped ',' (digits n) :=
        notMem_signed (notMem_grouped hdigits.2 (by decide)) (by decide)
      rw [withPoint_of_several hpoint hseveral, filter_signed_grouped ',' (by decide) (by decide)]
    · have hthree : rest.length = 3 := by
        have := List.length_pos_iff.mpr hrest
        omega
      have hn : n ≠ 0 := by
        have := three_lt_length_digits.mp hlong
        omega
      rw [heq, grouped_of_length_le (Nat.not_lt.mp hmore), ← List.append_assoc,
        withPoint_of_lone (hasNoSeparator_signed (.of_areDigits hfirstDigits)) (.of_areDigits hrestDigits), if_pos,
        hds, List.append_assoc]
      refine ⟨?_, ?_⟩
      · rw [byteLength_of_ascii fun c hc => utf8Size_of_isDigit (hrestDigits c hc), hthree]
      · rw [isZeroWhole_signed hfirstDigits, all_zero_first hds hfirst, decide_eq_false hn]
  · rw [grouped_of_length_le (Nat.not_lt.mp hlong), withPoint_of_notMem (hasNoSeparator_signed hdigits).1]

theorem withPoint_commas (d : Decimal) : withPoint (d.groupedText ',' '.').toList = d.toChars := by
  have hplaces := HasNoSeparator.of_areDigits (areDigits_paddedDigits d.scale d.magnitude)
  rw [groupedText, String.toList_ofList, toChars_eq_append, pointChars, ← List.append_assoc]
  by_cases hscale : d.scale = 0
  · rw [if_pos hscale, List.append_nil, List.append_nil, withPoint_grouped]
  rw [if_neg hscale]
  by_cases hcomma : ',' ∈ signChars d.negative ++ grouped ',' (digits d.whole)
  · rw [withPoint_of_point_last hcomma hplaces, filter_signed_grouped ',' (by decide) (by decide)]
  · have hnone : ',' ∉ signChars d.negative ++ grouped ',' (digits d.whole) ++
        '.' :: paddedDigits d.scale d.magnitude := by
      rw [List.mem_append, List.mem_cons, not_or, not_or]
      exact ⟨hcomma, by decide, hplaces.1⟩
    rw [withPoint_of_notMem hnone, ← filter_signed_grouped ',' (by decide) (by decide),
      filter_ne_of_notMem hcomma]

/-- With points between thousands, the comma before the places stays one unless three places follow a whole part
without marks that is not zero. -/
theorem withPoint_points {d : Decimal} (hscale : d.scale ≠ 0) : withPoint (d.groupedText '.' ',').toList =
    if 1000 ≤ d.whole ∨ d.whole = 0 ∨ d.scale ≠ 3 then d.toChars
    else signChars d.negative ++ (digits d.whole ++ paddedDigits d.scale d.magnitude) := by
  have hdigits := HasNoSeparator.of_areDigits (areDigits_digits d.whole)
  have hareDigits := areDigits_paddedDigits d.scale d.magnitude
  have hplaces := HasNoSeparator.of_areDigits hareDigits
  rw [groupedText, String.toList_ofList, toChars_eq_append, pointChars, if_neg hscale, if_neg hscale]
  by_cases hlong : 1000 ≤ d.whole
  · obtain ⟨first, rest, -, -, -, -, heq⟩ := exists_first_mark '.' (three_lt_length_digits.mpr hlong)
    have hpoint : '.' ∈ signChars d.negative ++ grouped '.' (digits d.whole) := by
      rw [heq]
      simp
    have hcomma : ',' ∉ signChars d.negative ++ grouped '.' (digits d.whole) :=
      notMem_signed (notMem_grouped hdigits.1 (by decide)) (by decide)
    rw [if_pos (.inl hlong), withPoint_of_comma_last hpoint hcomma hplaces,
      filter_signed_grouped '.' (by decide) (by decide), List.append_assoc]
  · have hshort : (digits d.whole).length ≤ 3 := Nat.not_lt.mp (mt three_lt_length_digits.mp hlong)
    have hbytes : byteLength (paddedDigits d.scale d.magnitude) = d.scale := by
      rw [byteLength_of_ascii fun c hc => utf8Size_of_isDigit (hareDigits c hc), length_paddedDigits]
    have hzero : isZeroWhole (signChars d.negative ++ digits d.whole) = decide (d.whole = 0) := by
      rw [isZeroWhole_signed (areDigits_digits _),
        all_zero_first (List.append_nil _).symm (digits_ne_nil _)]
    rw [grouped_of_length_le hshort, withPoint_of_lone (hasNoSeparator_signed hdigits) hplaces, hbytes, hzero]
    by_cases hmark : d.scale = 3 ∧ d.whole ≠ 0
    · rw [if_pos ⟨hmark.1, decide_eq_false hmark.2⟩, if_neg (by simp [hlong, hmark]), List.append_assoc]
    · rw [if_neg (by simpa using hmark), if_pos (by tauto), List.append_assoc]

theorem plainAmount?_toChars (h : ¬d.IsNegativeZero) : plainAmount? d.toChars = some d := by
  have hne : d.toChars ≠ [] := by
    rw [toChars_eq_append]
    simp [digits_ne_nil]
  have hread := ofAnyText_toText h
  rw [toText] at hread
  rw [plainAmount?, if_neg hne, hread]
  rfl

theorem withPoint_toChars (d : Decimal) : withPoint d.toChars = d.toChars := by
  refine withPoint_of_notMem ?_
  rw [toChars_eq_append, pointChars]
  refine notMem_signed ?_ (by decide)
  have hdigits := HasNoSeparator.of_areDigits (areDigits_digits d.whole)
  have hplaces := HasNoSeparator.of_areDigits (areDigits_paddedDigits d.scale d.magnitude)
  split_ifs with hscale
  · rw [List.append_nil]
    exact hdigits.1
  · rw [List.mem_append, List.mem_cons, not_or, not_or]
    exact ⟨hdigits.1, by decide, hplaces.1⟩

/-- Digits without a point are a decimal without places. -/
theorem scale_of_plainAmount? (hcs : AreDigits cs) (hne : cs ≠ []) (hvalue : digitsValue 0 cs < coefficientLimit)
    (h : plainAmount? (signChars negative ++ cs) = some d) : d.scale = 0 := by
  have hsign : signChars negative ++ cs = if negative then '-' :: (cs ++ []) else cs ++ [] := by
    rw [List.append_nil]
    cases negative <;> rfl
  have hread : ofText (String.ofList (signChars negative ++ cs)) =
      .ok (signed negative (digitsValue 0 cs) 0 hvalue (Nat.zero_le _)) := by
    rw [ofText, String.toList_ofList, hsign, ofChars_signed negative hcs hne, readDigits_whole hcs hne hvalue]
    rfl
  rw [plainAmount?, if_neg (by simp [hne]), ofAnyText, hread] at h
  cases h
  rfl

theorem forall_not_isBlank (h : AreDigits cs) : ∀ c ∈ cs, isBlank c = false :=
  fun c hc => not_isBlank_of_isDigit (h c hc)

theorem trimmed_signed (h : ∀ c ∈ cs, isBlank c = false) : Trimmed (signChars negative ++ cs) := by
  refine .of_forall (List.forall_mem_append.mpr ⟨fun c hc => ?_, h⟩)
  cases negative with
  | false => exact nomatch hc
  | true =>
    rw [List.mem_singleton.mp hc]
    decide

theorem trimmed_toText (d : Decimal) : Trimmed d.toText.toList := by
  rw [toText, String.toList_ofList, toChars_eq_append, pointChars]
  refine trimmed_signed (List.forall_mem_append.mpr ⟨forall_not_isBlank (areDigits_digits _), ?_⟩)
  split_ifs
  · exact List.forall_mem_nil _
  · exact List.forall_mem_cons.mpr ⟨by decide, forall_not_isBlank (areDigits_paddedDigits _ _)⟩

theorem trimmed_groupedText {mark point : Char} (hmark : isBlank mark = false) (hpoint : isBlank point = false)
    (d : Decimal) : Trimmed (d.groupedText mark point).toList := by
  rw [groupedText, String.toList_ofList, List.append_assoc]
  refine trimmed_signed (List.forall_mem_append.mpr ⟨fun c hc => ?_, ?_⟩)
  · rcases mem_grouped hc with rfl | hc
    · exact hmark
    · exact forall_not_isBlank (areDigits_digits _) c hc
  · split_ifs
    · exact List.forall_mem_nil _
    · exact List.forall_mem_cons.mpr ⟨hpoint, forall_not_isBlank (areDigits_paddedDigits _ _)⟩

theorem ofReport_between {text before after : String} (htext : Trimmed text.toList) (hbefore : AreBlank before.toList)
    (hafter : AreBlank after.toList) :
    ofReport (before ++ text ++ after) = .ok d ↔ plainAmount? (withPoint text.toList) = some d := by
  rw [ofReport_eq_ok, String.toList_append, String.toList_append, trimBlanks_between htext hbefore hafter]

/-- Every decimal but a negative zero is read back from its plain text and with commas between its thousands. With
points there and a comma before its places it is read back, unless that comma stands before three places
and after one to three digits that are not zero. -/
theorem ofReport_notations (h : ¬d.IsNegativeZero) {before after : String} (hbefore : AreBlank before.toList)
    (hafter : AreBlank after.toList) :
    ofReport (before ++ d.toText ++ after) = .ok d ∧
      ofReport (before ++ d.groupedText ',' '.' ++ after) = .ok d ∧
      (d.scale ≠ 0 → (ofReport (before ++ d.groupedText '.' ',' ++ after) = .ok d ↔
        1000 ≤ d.whole ∨ d.whole = 0 ∨ d.scale ≠ 3)) := by
  refine ⟨?_, ?_, fun hscale => ?_⟩
  · rw [ofReport_between (trimmed_toText d) hbefore hafter, toText, String.toList_ofList, withPoint_toChars,
      plainAmount?_toChars h]
  · rw [ofReport_between (trimmed_groupedText (by decide) (by decide) d) hbefore hafter, withPoint_commas,
      plainAmount?_toChars h]
  · rw [ofReport_between (trimmed_groupedText (by decide) (by decide) d) hbefore hafter, withPoint_points hscale]
    split_ifs with hreads
    · exact iff_of_true (plainAmount?_toChars h) hreads
    · refine iff_of_false (fun hread => hscale ?_) hreads
      have hdigits := (areDigits_digits d.whole).append (areDigits_paddedDigits d.scale d.magnitude)
      have hvalue : digitsValue 0 (digits d.whole ++ paddedDigits d.scale d.magnitude) = d.magnitude := by
        rw [digitsValue_append, digitsValue_digits, digitsValue_paddedDigits]
        exact Nat.div_add_mod' _ _
      exact scale_of_plainAmount? hdigits (by simp [digits_ne_nil]) (by rw [hvalue]; exact d.magnitude_lt) hread

/-- Millions below zero, with places that could be a group of thousands. -/
def millions : Decimal := { negative := true, magnitude := 1234567890, scale := 3 }

theorem ofReport_notations_millions :
    millions.groupedText '.' ',' = "-1.234.567,890" ∧ ¬millions.IsNegativeZero ∧ AreBlank " \t".toList ∧
      AreBlank "\n".toList ∧
      ofReport (" \t" ++ millions.toText ++ "\n") = .ok millions ∧
      ofReport (" \t" ++ millions.groupedText ',' '.' ++ "\n") = .ok millions ∧
      (millions.scale ≠ 0 → (ofReport (" \t" ++ millions.groupedText '.' ',' ++ "\n") = .ok millions ↔
        1000 ≤ millions.whole ∨ millions.whole = 0 ∨ millions.scale ≠ 3)) := by
  have htext : millions.groupedText '.' ',' = "-1.234.567,890" := by decide +kernel
  have hzero : ¬millions.IsNegativeZero := by decide
  have hbefore : AreBlank " \t".toList := by decide
  have hafter : AreBlank "\n".toList := by decide
  exact ⟨htext, hzero, hbefore, hafter, ofReport_notations hzero hbefore hafter⟩

end Amount
end CostJournal
