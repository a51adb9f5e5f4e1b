import CostJournal.Proofs.Json.Texts

/-!
# What is printed is read back

A value is plain when its numbers can be written and all its text is text. Both printers write plain values
so that they are read back, `ofText?_render` and `ofText?_pretty`, and the compact text has no control
character in it (`IsPlain.isControlFree`), whatever characters there are in the value.
-/

namespace CostJournal.Json

inductive IsPlain : Json → Prop
  | null : IsPlain .null
  | bool (b : Bool) : IsPlain (.bool b)
  | number {n : Numeral} : n.IsWritten → IsPlain (.number (String.ofList n.toChars))
  | string (s : String) : IsPlain (.string s)
  | array {items : List Json} : (∀ j ∈ items, IsPlain j) → IsPlain (.array items)
  | object {fields : List (String × Json)} : (∀ f ∈ fields, IsPlain f.2) → IsPlain (.object fields)

theorem isPlain_ofNat (n : Nat) : IsPlain (ofNat n) := by
  have hplain := IsPlain.number (isWritten_naturalNumeral n)
  rwa [toChars_naturalNumeral] at hplain

section
variable {j : Json} {f : String × Json} {items : List Json} {fields : List (String × Json)}

theorem readsItems_render (hj : Reads j j.renderChars) (hitems : ∀ j ∈ items, Reads j j.renderChars) :
    ReadsItems (j :: items) (renderChars j ++ renderMoreItems items) := by
  induction items generalizing j with
  | nil => exact .last hj .nil
  | cons next items ih =>
    obtain ⟨hnext, hitems⟩ := List.forall_mem_cons.mp hitems
    exact .cons hj (ih hnext hitems)

theorem readsFields_render (hf : Reads f.2 f.2.renderChars) (hfields : ∀ f ∈ fields, Reads f.2 f.2.renderChars) :
    ReadsFields (f :: fields) (renderField f ++ renderMoreFields fields) := by
  obtain ⟨name, v⟩ := f
  induction fields generalizing name v with
  | nil =>
    have hlast := ReadsFields.last name hf .nil
    exact hlast
  | cons next fields ih =>
    obtain ⟨hnext, hfields⟩ := List.forall_mem_cons.mp hfields
    exact .cons name hf (ih hfields next.1 next.2 hnext)

theorem IsPlain.reads_renderChars (h : j.IsPlain) : Reads j j.renderChars := by
  induction h with
  | null => exact .null
  | bool b => exact .bool b
  | number h =>
    unfold renderChars
    rw [String.toList_ofList]
    exact .number h
  | string s => exact .string s
  | @array items _ ih =>
    match items with
    | [] => exact .emptyArray
    | j :: items =>
      obtain ⟨hj, hitems⟩ := List.forall_mem_cons.mp ih
      exact .array (readsItems_render hj hitems)
  | @object fields _ ih =>
    match fields with
    | [] => exact .emptyObject
    | f :: fields =>
      obtain ⟨hf, hfields⟩ := List.forall_mem_cons.mp ih
      exact .object (readsFields_render hf hfields)

theorem ofText?_render (h : j.IsPlain) : ofText? j.render = some j := h.reads_renderChars.ofText?

theorem readsItems_pretty {level : Nat} (hj : Reads j (prettyChars (level + 1) j))
    (hitems : ∀ j ∈ items, Reads j (prettyChars (level + 1) j)) :
    ReadsItems (j :: items) (newLine (level + 1) ++ prettyChars (level + 1) j ++ prettyItems level items) := by
  have hread := hj.blanks (areBlanks_newLine (level + 1))
  induction items generalizing j with
  | nil => exact .last hread (areBlanks_newLine level)
  | cons next items ih =>
    obtain ⟨hnext, hitems⟩ := List.forall_mem_cons.mp hitems
    exact .cons hread (ih hnext hitems (hnext.blanks (areBlanks_newLine (level + 1))))

theorem readsFields_pretty {level : Nat} (hf : Reads f.2 (prettyChars (level + 1) f.2))
    (hfields : ∀ f ∈ fields, Reads f.2 (prettyChars (level + 1) f.2)) :
    ReadsFields (f :: fields) (newLine (level + 1) ++ prettyField (level + 1) f ++ prettyFields level fields) := by
  have hblank : AreBlanks [' '] := List.forall_mem_singleton.mpr rfl
  obtain ⟨name, v⟩ := f
  induction fields generalizing name v with
  | nil =>
    rw [List.append_assoc]
    exact (ReadsFields.last name (hf.blanks hblank) (areBlanks_newLine level)).blanks (areBlanks_newLine (level + 1))
  | cons next fields ih =>
    obtain ⟨hnext, hfields⟩ := List.forall_mem_cons.mp hfields
    rw [List.append_assoc]
    have hmore := ih hfields next.1 next.2 hnext
    exact (ReadsFields.cons name (hf.blanks hblank) hmore).blanks (areBlanks_newLine (level + 1))

theorem IsPlain.reads_prettyChars (h : j.IsPlain) (level : Nat) : Reads j (j.prettyChars level) := by
  induction h generalizing level with
  | null => exact .null
  | bool b =>
    have hread := Reads.bool b
    cases b <;> exact hread
  | number h =>
    unfold prettyChars
    rw [String.toList_ofList]
    exact .number h
  | string s => exact .string s
  | @array items _ ih =>
    match items with
    | [] => exact .emptyArray
    | j :: items =>
      obtain ⟨hj, hitems⟩ := List.forall_mem_cons.mp ih
      exact .array (readsItems_pretty (hj (level + 1)) fun j hj => hitems j hj (level + 1))
  | @object fields _ ih =>
    match fields with
    | [] => exact .emptyObject
    | f :: fields =>
      obtain ⟨hf, hfields⟩ := List.forall_mem_cons.mp ih
      exact .object (readsFields_pretty (hf (level + 1)) fun f hf => hfields f hf (level + 1))

theorem ofText?_pretty (h : j.IsPlain) : ofText? j.pretty = some j := (h.reads_prettyChars 0).ofText?

end

namespace IsControlFree
variable {c : Char} {cs ds : List Char}

theorem nil : IsControlFree [] := fun _ h => nomatch h

theorem cons (hc : 0x20 ≤ c.toNat) (h : IsControlFree cs) : IsControlFree (c :: cs) :=
  List.forall_mem_cons.mpr ⟨hc, h⟩

theorem append (hc : IsControlFree cs) (hd : IsControlFree ds) : IsControlFree (cs ++ ds) :=
  List.forall_mem_append.mpr ⟨hc, hd⟩

theorem of_areDigits (h : AreDigits cs) : IsControlFree cs := by
  intro c hc
  obtain ⟨hzero, -⟩ := Bool.and_eq_true_iff.mp (h c hc)
  have hzero : 48 ≤ c.toNat := UInt32.le_iff_toNat_le.mp (of_decide_eq_true hzero)
  exact Nat.le_trans (by decide) hzero

theorem quoted (s : String) : IsControlFree (quoted s) := by
  refine .cons (by decide) (.append (fun c hc => ?_) (by decide))
  obtain ⟨_, -, hc⟩ := List.mem_flatMap.mp hc
  exact isControlFree_escapeChar c hc

theorem number {n : Numeral} (h : n.IsWritten) : IsControlFree n.toChars := by
  have hsign : ∀ negative, IsControlFree (Numeral.signChars negative) := by decide
  have hfraction : ∀ ds, AreDigits ds → IsControlFree (Numeral.fractionChars ds)
    | [], _ => nil
    | _ :: _, hds => cons (by decide) (of_areDigits hds)
  have hexponent : ∀ e, (∀ p ∈ e, AreDigits p.2 ∧ p.2 ≠ []) → IsControlFree (Numeral.exponentChars e)
    | none, _ => nil
    | some (true, _), hds => cons (by decide) (cons (by decide) (of_areDigits (hds _ rfl).1))
    | some (false, _), hds => cons (by decide) (cons (by decide) (of_areDigits (hds _ rfl).1))
  exact (hsign _).append ((of_areDigits h.whole.areDigits).append
    ((hfraction _ h.fraction).append (hexponent _ h.exponent)))

theorem items {items : List Json} (h : ∀ j ∈ items, IsControlFree j.renderChars) :
    IsControlFree (renderMoreItems items) := by
  induction items with
  | nil => decide
  | cons j items ih =>
    obtain ⟨hj, hitems⟩ := List.forall_mem_cons.mp h
    exact .append (.cons (by decide) hj) (ih hitems)

theorem field {f : String × Json} (h : IsControlFree f.2.renderChars) : IsControlFree (renderField f) :=
  match f with
  | (name, _) => .append (quoted name) (.cons (by decide) h)

theorem fields {fields : List (String × Json)} (h : ∀ f ∈ fields, IsControlFree f.2.renderChars) :
    IsControlFree (renderMoreFields fields) := by
  induction fields with
  | nil => decide
  | cons f fields ih =>
    obtain ⟨hf, hfields⟩ := List.forall_mem_cons.mp h
    exact .append (.cons (by decide) (field hf)) (ih hfields)

end IsControlFree

theorem IsPlain.isControlFree {j : Json} (h : j.IsPlain) : IsControlFree j.renderChars := by
  induction h with
  | null => decide
  | bool b => cases b <;> decide
  | number h =>
    unfold renderChars
    rw [String.toList_ofList]
    exact .number h
  | string s => exact .quoted s
  | @array items _ ih =>
    match items with
    | [] => decide
    | j :: items =>
      obtain ⟨hj, hitems⟩ := List.forall_mem_cons.mp ih
      exact .cons (by decide) (.append hj (.items hitems))
  | @object fields _ ih =>
    match fields with
    | [] => decide
    | f :: fields =>
      obtain ⟨hf, hfields⟩ := List.forall_mem_cons.mp ih
      exact .cons (by decide) (.append (.field hf) (.fields hfields))

end CostJournal.Json
