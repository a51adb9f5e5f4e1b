import CostJournal.Json.Printer
import CostJournal.Proofs.Json.Numbers
import Mathlib.Data.List.DropRight

/-!
# Texts of values

`Reads j cs` says that the reader takes the value `j` from any text that goes on from `cs`, with fuel for
twice the length of `cs`. There is one rule for each way in which a text is put together, so what a printer
writes is read back whichever blanks it leaves.
-/

namespace CostJournal.Json

theorem hexValue?_hexDigit {n : Nat} (h : n < 16) : hexValue? (hexDigit n) = some n := by
  have : ∀ k, k < 16 → hexValue? (hexDigit k) = some k := by decide
  exact this n h

section strings
variable {done : List Char} {whole : Bool} {c r : Char} {cs rest : List Char}

theorem readString_simple (h : simpleEscape? c = some r) :
    readString done whole ('\\' :: c :: rest) = readString (r :: done) whole rest := by
  rw [readString.eq_4, h]
  rintro _ _ _ _ _ rfl -
  have hnone : simpleEscape? 'u' = none := by decide
  exact Option.some_ne_none r (h.symm.trans hnone)

theorem readString_plain (h : 0x20 ≤ c.toNat) (hquote : c ≠ '"') (hbackslash : c ≠ '\\') :
    readString done whole (c :: rest) = readString (c :: done) whole rest := by
  rw [readString.eq_5]
  · exact if_neg (not_or.mpr ⟨Nat.not_lt.mpr h, hbackslash⟩)
  · exact hquote
  · exact fun _ _ _ _ _ heq _ => hbackslash heq
  · exact fun _ _ heq _ => hbackslash heq

theorem readString_control (h : c.toNat < 0x20) :
    readString done whole ('\\' :: 'u' :: '0' :: '0' :: hexDigit (c.toNat / 16) :: hexDigit (c.toNat % 16) :: rest) =
      readString (c :: done) whole rest := by
  have hhex : hex4? '0' '0' (hexDigit (c.toNat / 16)) (hexDigit (c.toNat % 16)) = some c.toNat := by
    have hzero : hexValue? '0' = some 0 := by decide
    unfold hex4?
    rw [hzero, hexValue?_hexDigit (show c.toNat / 16 < 16 by omega),
      hexValue?_hexDigit (show c.toNat % 16 < 16 by omega)]
    show some (((0 * 16 + 0) * 16 + c.toNat / 16) * 16 + c.toNat % 16) = some c.toNat
    congr 1
    omega
  have hhigh : isHighHalf c.toNat = false := by
    simp only [isHighHalf, Bool.and_eq_false_iff, decide_eq_false_iff_not]
    omega
  have hlow : isLowHalf c.toNat = false := by
    simp only [isLowHalf, Bool.and_eq_false_iff, decide_eq_false_iff_not]
    omega
  rw [readString.eq_3, hhex]
  simp only [hhigh, hlow, Bool.false_eq_true, if_false, Char.ofNat_toNat]

/-- Whatever a character is written as, it is read back. -/
theorem readString_escapeChar (done : List Char) (whole : Bool) (c : Char) (rest : List Char) :
    readString done whole (escapeChar c ++ rest) = readString (c :: done) whole rest := by
  have hsimple : ∀ letter r, simpleEscape? letter = some r → c = r →
      readString done whole (['\\', letter] ++ rest) = readString (c :: done) whole rest := by
    rintro _ _ h rfl
    exact readString_simple h
  unfold escapeChar
  split_ifs with hquote hbackslash hb hf hn hr ht hcontrol
  · exact hsimple '"' '"' (by decide) hquote
  · exact hsimple '\\' '\\' (by decide) hbackslash
  · exact hsimple 'b' '\x08' (by decide) hb
  · exact hsimple 'f' '\x0c' (by decide) hf
  · exact hsimple 'n' '\n' (by decide) hn
  · exact hsimple 'r' '\r' (by decide) hr
  · exact hsimple 't' '\t' (by decide) ht
  · exact readString_control hcontrol
  · exact readString_plain (Nat.not_lt.mp hcontrol) hquote hbackslash

theorem readString_flatMap (done cs rest : List Char) :
    readString done true (cs.flatMap escapeChar ++ '"' :: rest) =
      some (some (String.ofList (done.reverse ++ cs)), rest) := by
  induction cs generalizing done with
  | nil =>
    rw [List.append_nil]
    exact readString.eq_2 ..
  | cons c cs ih =>
    rw [List.flatMap_cons, List.append_assoc, readString_escapeChar, ih, List.reverse_cons, List.append_assoc]
    rfl

theorem readString_toList (s : String) (rest : List Char) :
    readString [] true (s.toList.flatMap escapeChar ++ '"' :: rest) = some (some s, rest) := by
  rw [readString_flatMap]
  exact congrArg (fun s => some (some s, rest)) String.ofList_toList

/-- No character of the text is a control character. -/
def IsControlFree (cs : List Char) : Prop := ∀ c ∈ cs, 0x20 ≤ c.toNat

instance (cs : List Char) : Decidable (IsControlFree cs) := List.decidableBAll _ cs

theorem isControlFree_escapeChar : IsControlFree (escapeChar c) := by
  have hdigit : ∀ k, k < 16 → 0x20 ≤ (hexDigit k).toNat := by decide
  unfold escapeChar
  split_ifs with hquote hbackslash hb hf hn hr ht hcontrol
  iterate 7 decide
  · have hhigh := hdigit (c.toNat / 16) (by omega)
    have hlow := hdigit (c.toNat % 16) (by omega)
    have hmark : IsControlFree ['\\', 'u', '0', '0'] := by decide
    exact List.forall_mem_append.mpr
      ⟨hmark, List.forall_mem_cons.mpr ⟨hhigh, List.forall_mem_singleton.mpr hlow⟩⟩
  · exact List.forall_mem_singleton.mpr (Nat.not_lt.mp hcontrol)

end strings

theorem quoted_append (s : String) (cs : List Char) :
    quoted s ++ cs = '"' :: (s.toList.flatMap escapeChar ++ '"' :: cs) := by
  rw [quoted, List.append_assoc]
  rfl

theorem mapM_map_eq_some {α β : Type} {write : α → β} {read? : β → Option α} {xs : List α}
    (h : ∀ x ∈ xs, read? (write x) = some x) : (xs.map write).mapM read? = some xs := by
  induction xs with
  | nil => rfl
  | cons x xs ih =>
    obtain ⟨hx, hxs⟩ := List.forall_mem_cons.mp h
    rw [List.map_cons, List.mapM_cons, hx, ih hxs]
    rfl

/-- Fields with their names as they are read make up their object. -/
theorem objectOf_texts (fields : List (String × Json)) :
    objectOf (fields.map fun f => (some f.1, f.2)) = .object fields := by
  have htexts : (fields.map fun f => (some f.1, f.2)).mapM (fun f => f.1.map (·, f.2)) = some fields :=
    mapM_map_eq_some fun _ _ => rfl
  rw [objectOf, htexts]

def AreBlanks (b : List Char) : Prop := ∀ c ∈ b, isJsonBlank c = true

theorem AreBlanks.nil : AreBlanks [] := fun _ h => nomatch h

theorem areBlanks_newLine (level : Nat) : AreBlanks (newLine level) := by
  refine List.forall_mem_cons.mpr ⟨rfl, fun c hc => ?_⟩
  rw [List.eq_of_mem_replicate hc]
  rfl

theorem ends_of_isJsonBlank {c : Char} (h : isJsonBlank c = true) :
    c.isDigit = false ∧ c ≠ '.' ∧ c ≠ 'e' ∧ c ≠ 'E' := by
  simp only [isJsonBlank, Bool.or_eq_true, beq_iff_eq] at h
  rcases h with ((rfl | rfl) | rfl) | rfl <;> decide

theorem AreBlanks.endsNumber {b : List Char} (hb : AreBlanks b) {rest : List Char} (h : EndsNumber rest) :
    EndsNumber (b ++ rest) := by
  cases b with
  | nil => exact h
  | cons c _ => exact .cons (ends_of_isJsonBlank (hb c List.mem_cons_self)) _

theorem skipBlanks_append {b : List Char} (hb : AreBlanks b) (cs : List Char) :
    skipBlanks (b ++ cs) = skipBlanks cs :=
  List.dropWhile_append_of_pos hb

theorem skipBlanks_cons {c : Char} (h : isJsonBlank c = false) (cs : List Char) : skipBlanks (c :: cs) = c :: cs :=
  List.dropWhile_cons_of_neg (Bool.eq_false_iff.mp h)

theorem skipBlanks_skipBlanks (cs : List Char) : skipBlanks (skipBlanks cs) = skipBlanks cs :=
  List.dropWhile_idempotent _ cs

/-- The text is read as the value, whatever follows that is no part of a number. -/
def Reads (j : Json) (cs : List Char) : Prop :=
  ∀ fuel rest, 2 * cs.length ≤ fuel → EndsNumber rest → readValue fuel (cs ++ rest) = some (j, rest)

/-- After earlier items and a comma, the text is read as these items and the end of an array. -/
def ReadsItems (items : List Json) (cs : List Char) : Prop :=
  ∀ fuel done rest, 2 * cs.length ≤ fuel →
    readItems fuel done (cs ++ rest) = some (.array (done.reverse ++ items), rest)

/-- After earlier fields and a comma, the text is read as these fields and the end of an object. -/
def ReadsFields (fields : List (String × Json)) (cs : List Char) : Prop :=
  ∀ fuel done rest, 2 * cs.length ≤ fuel →
    readFields fuel done (cs ++ rest) =
      some (objectOf (done.reverse ++ fields.map fun f => (some f.1, f.2)), rest)

section
variable {j v : Json} {items : List Json} {fields : List (String × Json)} {name : String}
  {b cs ts : List Char}

theorem readValue_congr {fuel : Nat} {cs ts : List Char} (h : skipBlanks cs = skipBlanks ts) :
    readValue fuel cs = readValue fuel ts := by
  cases fuel with
  | zero => rfl
  | succ fuel =>
    unfold readValue
    rw [h]

theorem readItems_congr {fuel : Nat} {done : List Json} (h : skipBlanks cs = skipBlanks ts) :
    readItems fuel done cs = readItems fuel done ts := by
  cases fuel with
  | zero => rfl
  | succ fuel =>
    unfold readItems
    rw [readValue_congr h]

theorem readFields_congr {fuel : Nat} {done : List (Option String × Json)} (h : skipBlanks cs = skipBlanks ts) :
    readFields fuel done cs = readFields fuel done ts := by
  cases fuel with
  | zero => rfl
  | succ fuel =>
    unfold readFields
    rw [h]

/-- No item starts with the bracket that ends an array. -/
theorem readItems_bracket (fuel : Nat) (done : List Json) (rest : List Char) :
    readItems fuel done (']' :: rest) = none := by
  rcases fuel with _ | _ | fuel <;> rfl

/-- No name starts with the brace that ends an object. -/
theorem readFields_brace (fuel : Nat) (done : List (Option String × Json)) (rest : List Char) :
    readFields fuel done ('\x7d' :: rest) = none := by
  cases fuel <;> rfl

namespace Reads

theorem blanks (hb : AreBlanks b) (h : Reads j cs) : Reads j (b ++ cs) := by
  intro fuel rest hfuel hrest
  rw [List.length_append] at hfuel
  rw [List.append_assoc, readValue_congr (skipBlanks_append hb _)]
  exact h fuel rest (by omega) hrest

theorem null : Reads .null ['n', 'u', 'l', 'l'] := by
  intro fuel rest hfuel _
  match fuel with
  | fuel + 1 => rfl

theorem bool : ∀ b : Bool, Reads (.bool b) (renderChars (.bool b))
  | true => fun fuel _ _ _ => match fuel with | _ + 1 => rfl
  | false => fun fuel _ _ _ => match fuel with | _ + 1 => rfl

theorem string (s : String) : Reads (.string s) (quoted s) := by
  intro fuel rest hfuel _
  match fuel with
  | fuel + 1 =>
    rw [quoted_append]
    show (readString [] true (s.toList.flatMap escapeChar ++ '"' :: rest)).map _ = _
    rw [readString_toList]
    rfl

theorem number {n : Numeral} (h : n.IsWritten) : Reads (.number (String.ofList n.toChars)) n.toChars := by
  intro fuel rest hfuel hrest
  obtain ⟨c, cs, hcs, hc⟩ := Numeral.exists_toChars h
  match fuel with
  | 0 =>
    rw [hcs] at hfuel
    exact absurd hfuel (by simp)
  | fuel + 1 =>
    have hstart : skipBlanks (n.toChars ++ rest) = n.toChars ++ rest := by
      rw [hcs]
      refine List.dropWhile_cons_of_neg ?_
      rcases hc with rfl | hc
      · decide
      · exact fun hblank => absurd (hc.symm.trans (ends_of_isJsonBlank hblank).1) (by decide)
    have hnot : ∀ c', c' ≠ '-' → c'.isDigit = false → ∀ ts, n.toChars ++ rest ≠ c' :: ts := by
      rintro c' hminus hdigit ts heq
      rw [hcs] at heq
      cases heq
      rcases hc with rfl | hc
      · exact hminus rfl
      · exact absurd (hc.symm.trans hdigit) (by decide)
    unfold readValue
    rw [hstart]
    split
    next heq => exact (hnot 'n' (by decide) rfl _ heq).elim
    next heq => exact (hnot 't' (by decide) rfl _ heq).elim
    next heq => exact (hnot 'f' (by decide) rfl _ heq).elim
    next heq => exact (hnot '"' (by decide) rfl _ heq).elim
    next heq => exact (hnot '[' (by decide) rfl _ heq).elim
    next heq => exact (hnot '\x7b' (by decide) rfl _ heq).elim
    next => exact Numeral.readNumber_toChars h hrest

theorem emptyArray : Reads (.array []) ['[', ']'] := by
  intro fuel rest hfuel _
  match fuel with
  | fuel + 1 => rfl

theorem emptyObject : Reads (.object []) ['\x7b', '\x7d'] := by
  intro fuel rest hfuel _
  match fuel with
  | fuel + 1 => rfl

theorem array (h : ReadsItems items cs) : Reads (.array items) ('[' :: cs) := by
  intro fuel rest hfuel _
  cases fuel with
  | zero => simp at hfuel
  | succ fuel =>
    have hitems := h fuel [] rest (by rw [List.length_cons] at hfuel; omega)
    rw [← readItems_congr (skipBlanks_skipBlanks _)] at hitems
    rw [List.cons_append, readValue]
    simp only [skipBlanks_cons (c := '[') rfl]
    split
    next heq =>
      rw [heq, readItems_bracket] at hitems
      cases hitems
    next => exact hitems

theorem object (h : ReadsFields fields cs) : Reads (.object fields) ('\x7b' :: cs) := by
  intro fuel rest hfuel _
  cases fuel with
  | zero => simp at hfuel
  | succ fuel =>
    have hfields := h fuel [] rest (by rw [List.length_cons] at hfuel; omega)
    rw [← readFields_congr (skipBlanks_skipBlanks _)] at hfields
    rw [List.cons_append, readValue]
    simp only [skipBlanks_cons (c := '\x7b') rfl]
    split
    next heq =>
      rw [heq, readFields_brace] at hfields
      cases hfields
    next => exact hfields.trans (by rw [List.reverse_nil, List.nil_append, objectOf_texts])

end Reads

namespace ReadsItems

theorem last (h : Reads j cs) (hb : AreBlanks b) : ReadsItems [j] (cs ++ (b ++ [']'])) := by
  intro fuel done rest hfuel
  match fuel with
  | 0 => exact absurd hfuel (by simp)
  | fuel + 1 =>
    have hread := h fuel (b ++ ']' :: rest) (by simp at hfuel; omega) (hb.endsNumber (.cons (by decide) rest))
    have htext : cs ++ (b ++ [']']) ++ rest = cs ++ (b ++ ']' :: rest) := by simp
    rw [htext, readItems, hread]
    simp only [skipBlanks_append hb]
    show some (Json.array (j :: done).reverse, rest) = _
    rw [List.reverse_cons]

theorem cons (h : Reads j cs) (hmore : ReadsItems items ts) : ReadsItems (j :: items) (cs ++ ',' :: ts) := by
  intro fuel done rest hfuel
  match fuel with
  | 0 => exact absurd hfuel (by simp)
  | fuel + 1 =>
    have hread := h fuel (',' :: (ts ++ rest)) (by simp at hfuel; omega) (.cons (by decide) _)
    have hreads := hmore fuel (j :: done) rest (by simp at hfuel; omega)
    have htext : cs ++ ',' :: ts ++ rest = cs ++ ',' :: (ts ++ rest) := by simp
    rw [htext, readItems, hread]
    show readItems fuel (j :: done) (ts ++ rest) = _
    rw [hreads, List.reverse_cons, List.append_assoc]
    rfl

end ReadsItems

namespace ReadsFields

theorem blanks (hb : AreBlanks b) (h : ReadsFields fields cs) : ReadsFields fields (b ++ cs) := by
  intro fuel done rest hfuel
  rw [List.length_append] at hfuel
  rw [List.append_assoc, readFields_congr (skipBlanks_append hb _)]
  exact h fuel done rest (by omega)

theorem last (name : String) (h : Reads v cs) (hb : AreBlanks b) :
    ReadsFields [(name, v)] ((quoted name ++ ':' :: cs) ++ (b ++ ['\x7d'])) := by
  intro fuel done rest hfuel
  match fuel with
  | 0 => exact absurd hfuel (by simp)
  | fuel + 1 =>
    have hread := h fuel (b ++ '\x7d' :: rest) (by simp at hfuel; omega) (hb.endsNumber (.cons (by decide) rest))
    have htext : (quoted name ++ ':' :: cs) ++ (b ++ ['\x7d']) ++ rest =
        quoted name ++ ':' :: (cs ++ (b ++ '\x7d' :: rest)) := by simp
    rw [htext, quoted_append, readFields]
    simp only [skipBlanks_cons (c := '"') rfl, readString_toList, skipBlanks_cons (c := ':') rfl, hread,
      skipBlanks_append hb, skipBlanks_cons (c := '\x7d') rfl, List.reverse_cons, List.map_cons, List.map_nil]

theorem cons (name : String) (h : Reads v cs) (hmore : ReadsFields fields ts) :
    ReadsFields ((name, v) :: fields) ((quoted name ++ ':' :: cs) ++ ',' :: ts) := by
  intro fuel done rest hfuel
  match fuel with
  | 0 => exact absurd hfuel (by simp)
  | fuel + 1 =>
    have hread := h fuel (',' :: (ts ++ rest)) (by simp at hfuel; omega) (.cons (by decide) _)
    have hreads := hmore fuel ((some name, v) :: done) rest (by simp at hfuel; omega)
    have htext : (quoted name ++ ':' :: cs) ++ ',' :: ts ++ rest =
        quoted name ++ ':' :: (cs ++ ',' :: (ts ++ rest)) := by simp
    rw [htext, quoted_append, readFields]
    simp only [skipBlanks_cons (c := '"') rfl, readString_toList, skipBlanks_cons (c := ':') rfl, hread,
      skipBlanks_cons (c := ',') rfl]
    rw [hreads, List.reverse_cons, List.append_assoc]
    rfl

end ReadsFields

/-- A text that reads as a value is the text of that value. -/
theorem Reads.ofText? (h : Reads j cs) : ofText? (String.ofList cs) = some j := by
  have hread := h (2 * cs.length + 2) [] (by omega) .nil
  rw [List.append_nil] at hread
  rw [Json.ofText?, String.toList_ofList, ofChars?, hread]
  rfl

end

end CostJournal.Json
