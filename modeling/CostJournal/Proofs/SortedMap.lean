import CostJournal.SortedMap
import Mathlib.Data.List.Nodup
import Mathlib.Data.List.Sort

/-!
# Entries of a sorted map

`mem_entries` identifies the entries with what look-ups find; keys rise strictly, so no key has two
entries. So maps are compared one key at a time (`eq_of_get?_eq`), and where pairs of one key have one value, the
order of the pairs does not matter (`ofList_of_perm`).
-/

namespace CostJournal

/-- Where all elements that give something give the same, a search finds it in any order. -/
theorem findSome?_of_perm {α β : Type} {f : α → Option β} {xs ys : List α} (h : xs.Perm ys)
    (hagree : ∀ x ∈ xs, ∀ y ∈ xs, ∀ a b, f x = some a → f y = some b → a = b) : xs.findSome? f = ys.findSome? f := by
  match hxs : xs.findSome? f, hys : ys.findSome? f with
  | none, none => rfl
  | some a, some b =>
    obtain ⟨x, hx, ha⟩ := List.exists_of_findSome?_eq_some hxs
    obtain ⟨y, hy, hb⟩ := List.exists_of_findSome?_eq_some hys
    rw [hagree x hx y (h.mem_iff.mpr hy) a b ha hb]
  | some a, none =>
    obtain ⟨x, hx, ha⟩ := List.exists_of_findSome?_eq_some hxs
    cases ha.symm.trans (List.findSome?_eq_none_iff.mp hys x (h.mem_iff.mp hx))
  | none, some b =>
    obtain ⟨y, hy, hb⟩ := List.exists_of_findSome?_eq_some hys
    cases hb.symm.trans (List.findSome?_eq_none_iff.mp hxs y (h.mem_iff.mpr hy))

namespace SortedMap
variable {α : Type} {m m' : SortedMap α} {key : String} {value : α}

theorem pairwise_keys (m : SortedMap α) : m.keys.Pairwise (· < ·) :=
  List.pairwise_map.mpr m.ascending

theorem nodup_keys (m : SortedMap α) : m.keys.Nodup :=
  m.pairwise_keys.imp fun h => Std.ne_of_lt h

theorem mem_entries : (key, value) ∈ m.entries ↔ m.get? key = some value := by
  constructor
  · intro h
    obtain ⟨before, after, hm⟩ := List.append_of_mem h
    refine List.lookup_eq_some_iff.mpr ⟨before, after, hm, fun p hp => ?_⟩
    have hlt : p.1 < key := by
      have := m.ascending
      rw [hm] at this
      exact (List.pairwise_append.mp this).2.2 p hp (key, value) List.mem_cons_self
    simpa using (Std.ne_of_lt hlt).symm
  · intro h
    obtain ⟨before, after, hm, -⟩ := List.lookup_eq_some_iff.mp h
    rw [hm]
    simp

theorem eq_of_get?_eq (h : ∀ key, m.get? key = m'.get? key) : m = m' := by
  have hirrefl : Std.Irrefl fun a b : String × α => a.1 < b.1 := ⟨fun _ => String.lt_irrefl _⟩
  have hantisymm : Std.Antisymm fun a b : String × α => a.1 < b.1 :=
    ⟨fun _ _ hab hba => absurd (String.lt_trans hab hba) (String.lt_irrefl _)⟩
  refine SortedMap.ext (List.Pairwise.eq_of_mem_iff m.ascending m'.ascending fun (key, value) => ?_)
  rw [mem_entries, mem_entries, h]

theorem mem_keys : key ∈ m.keys ↔ ∃ value, m.get? key = some value := by
  simp only [keys, List.mem_map, ← mem_entries]
  constructor
  · rintro ⟨⟨_, value⟩, h, rfl⟩
    exact ⟨value, h⟩
  · rintro ⟨value, h⟩
    exact ⟨_, h, rfl⟩

theorem mem_entries_insert {e : String × α} (h : e ∈ (m.insert key value).entries) :
    e = (key, value) ∨ e ∈ m.entries :=
  mem_insertEntry h

theorem insertEntry_append {entries : List (String × α)} (h : ∀ e ∈ entries, e.1 < key) :
    insertEntry key value entries = entries ++ [(key, value)] := by
  induction entries with
  | nil => rfl
  | cons e entries ih =>
    obtain ⟨k, v⟩ := e
    obtain ⟨hk, hentries⟩ := List.forall_mem_cons.mp h
    rw [insertEntry, if_neg (String.not_lt.mpr (Std.le_of_lt hk)), if_neg (Std.ne_of_lt hk).symm, ih hentries]
    rfl

theorem entries_insertAll {pairs : List (String × α)} (h : Ascending (m.entries ++ pairs)) :
    (m.insertAll pairs).entries = m.entries ++ pairs := by
  induction pairs generalizing m with
  | nil => exact (List.append_nil _).symm
  | cons pair pairs ih =>
    have hentries : (m.insert pair.1 pair.2).entries = m.entries ++ [pair] :=
      insertEntry_append fun e he => (List.pairwise_append.mp h).2.2 e he pair List.mem_cons_self
    rw [← List.singleton_append, ← List.append_assoc, ← hentries] at h ⊢
    exact ih h

/-- Entries of different keys are put in independently, each made of what was under its key before. -/
theorem get?_foldl_insert {β : Type} (f : Option α → β → α) {pairs : List (String × β)}
    (h : (pairs.map (·.1)).Nodup) (m : SortedMap α) (key : String) :
    (pairs.foldl (fun m e => m.insert e.1 (f (m.get? e.1) e.2)) m).get? key =
      ((pairs.lookup key).map (f (m.get? key))).or (m.get? key) := by
  induction pairs generalizing m with
  | nil => rfl
  | cons e pairs ih =>
    obtain ⟨k, b⟩ := e
    obtain ⟨hk, hpairs⟩ := List.nodup_cons.mp h
    rw [List.foldl_cons, ih hpairs, lookup_pair]
    by_cases heq : key = k
    · have hnone : pairs.lookup key = none := by
        rw [List.lookup_eq_none_iff]
        intro e he
        exact bne_iff_ne.mpr fun hkey => hk (List.mem_map.mpr ⟨e, he, hkey.symm.trans heq⟩)
      rw [if_pos heq, hnone, heq, get?_insert_self]
      rfl
    · rw [if_neg heq, get?_insert_of_ne _ _ heq]

/-- Of several pairs of one key the last stays. -/
theorem get?_insertAll (m : SortedMap α) (pairs : List (String × α)) (key : String) :
    (m.insertAll pairs).get? key = (pairs.reverse.lookup key).or (m.get? key) := by
  induction pairs generalizing m with
  | nil => rfl
  | cons e pairs ih =>
    refine (ih (m.insert e.1 e.2)).trans ?_
    rw [get?_insert, List.reverse_cons, List.lookup_append, Option.or_assoc, lookup_pair]
    by_cases heq : key = e.1
    · rw [if_pos heq, if_pos heq, Option.some_or]
    · rw [if_neg heq, if_neg heq, List.lookup_nil, Option.none_or]

theorem ofList_of_perm {pairs pairs' : List (String × α)} (h : pairs.Perm pairs')
    (hagree : ∀ e ∈ pairs, ∀ e' ∈ pairs, e.1 = e'.1 → e.2 = e'.2) : ofList pairs = ofList pairs' := by
  refine eq_of_get?_eq fun key => ?_
  have hlookup : pairs.reverse.lookup key = pairs'.reverse.lookup key := by
    rw [List.lookup_eq_findSome?, List.lookup_eq_findSome?]
    refine findSome?_of_perm ((List.reverse_perm _).trans (h.trans (List.reverse_perm _).symm)) ?_
    intro e he e' he' a b ha hb
    obtain ⟨hkey, ha⟩ := Option.ite_none_right_eq_some.mp ha
    obtain ⟨hkey', hb⟩ := Option.ite_none_right_eq_some.mp hb
    cases ha
    cases hb
    exact hagree e (List.mem_reverse.mp he) e' (List.mem_reverse.mp he')
      ((beq_iff_eq.mp hkey).symm.trans (beq_iff_eq.mp hkey'))
  rw [ofList, ofList, get?_insertAll, get?_insertAll, hlookup]

theorem get?_insertAll_entries (m m' : SortedMap α) (key : String) :
    (m.insertAll m'.entries).get? key = (m'.get? key).or (m.get? key) := by
  refine (get?_foldl_insert (fun _ b => b) m'.nodup_keys m key).trans ?_
  rw [show (fun b : α => b) = id from rfl, Option.map_id]
  rfl

/-- A map is made up of its entries. -/
theorem ofList_entries (m : SortedMap α) : ofList m.entries = m :=
  SortedMap.ext (entries_insertAll m.ascending)

end SortedMap

end CostJournal
