import CostJournal.Generator.Basic
import CostJournal.Proofs.Period
import CostJournal.Proofs.Returns
import Mathlib.Data.List.Nodup

/-!
# The journals that a ledger holds

`Holdings.InOrder` is the order that runs keep: at most one journal of an authorization and a period is
pending, they are numbered in the order of their creation, and no two have one id. Changes of status
keep it, as long as no journal becomes pending again (`InOrder.ages`), and so does a new journal with
the next number where none is pending (`InOrder.adds`).
-/

namespace CostJournal

/-- The journals of a ledger with their authorizations, the oldest first. -/
abbrev Holdings := List (String × Journal)

/-- The status may change, but not to a pending one. -/
structure Journal.Ages (j j' : Journal) : Prop where
  id : j'.id = j.id
  name : j'.name = j.name
  externalIds : j'.externalIds = j.externalIds
  pending : j'.isPending → j.isPending

theorem Journal.Ages.refl (j : Journal) : j.Ages j := ⟨rfl, rfl, rfl, fun h => h⟩

namespace Holdings
variable {held held' : Holdings} {id : String} {period : Period} {n : NewJournal} {j : Journal}

/-- The journal is one of the authorization for the period. -/
def IsOf (id : String) (period : Period) (e : String × Journal) : Prop :=
  e.1 = id ∧ e.2.externalIds.vendor = some period.journalExternalId

instance (id : String) (period : Period) (e : String × Journal) : Decidable (IsOf id period e) :=
  inferInstanceAs (Decidable (_ ∧ _))

theorem IsOf.unique {id' : String} {period' : Period} {e : String × Journal} (h : IsOf id period e)
    (h' : IsOf id' period' e) : id = id' ∧ period = period' :=
  ⟨h.1.symm.trans h'.1, Period.journalExternalId_inj.mp (Option.some.inj (h.2.symm.trans h'.2))⟩

/-- The journals of an authorization for a period. -/
def journalsOf (held : Holdings) (id : String) (period : Period) : List Journal :=
  (held.filter fun e => IsOf id period e).map (·.2)

theorem journalsOf_append (held held' : Holdings) :
    journalsOf (held ++ held') id period = held.journalsOf id period ++ held'.journalsOf id period := by
  rw [journalsOf, List.filter_append, List.map_append]
  rfl

/-- Journals change their status only, and none becomes pending. -/
def Ages (held held' : Holdings) : Prop := List.Forall₂ (fun e e' => e'.1 = e.1 ∧ e.2.Ages e'.2) held held'

theorem Ages.refl (held : Holdings) : held.Ages held :=
  List.forall₂_same.mpr fun e _ => ⟨rfl, .refl e.2⟩

/-- The journal is added as pending, with an id of its own and what was asked for. -/
structure Adds (n : NewJournal) (j : Journal) (held held' : Holdings) : Prop where
  eq_append : held' = held ++ [(n.authorizationId, j)]
  name : j.name = some n.name
  externalIds : j.externalIds = n.externalIds
  pending : j.isPending
  fresh : ∀ e ∈ held, e.2.id ≠ j.id

theorem Ages.journalsOf (h : held.Ages held') (id : String) (period : Period) :
    List.Forall₂ Journal.Ages (held.journalsOf id period) (held'.journalsOf id period) := by
  have hfilter : List.Forall₂ (fun e e' : String × Journal => e'.1 = e.1 ∧ e.2.Ages e'.2)
      (held.filter fun e => IsOf id period e) (held'.filter fun e => IsOf id period e) := by
    refine List.rel_filter (fun e e' hage => ?_) h
    show decide (IsOf id period e) = true ↔ decide (IsOf id period e') = true
    rw [decide_eq_true_iff, decide_eq_true_iff, IsOf, IsOf, hage.1, hage.2.externalIds]
  rw [Holdings.journalsOf, Holdings.journalsOf, List.forall₂_map_left_iff, List.forall₂_map_right_iff]
  exact hfilter.imp fun _ _ hage => hage.2

/-- The names of the first `count` journals of a period. -/
def numbered (period : Period) (count : Nat) : List (Option String) :=
  (List.range count).map fun k => some (period.journalName (k + 1))

/-- The order of the journals that runs create. -/
structure InOrder (held : Holdings) : Prop where
  onePending : ∀ id period, ((held.journalsOf id period).filter (·.isPending)).length ≤ 1
  names : ∀ id period, (held.journalsOf id period).map (·.name) =
    numbered period (held.journalsOf id period).length
  ids : (held.map (·.2.id)).Nodup

namespace InOrder

theorem nil : InOrder [] where
  onePending _ _ := Nat.zero_le _
  names _ _ := rfl
  ids := List.nodup_nil

theorem ages (h : held.InOrder) (hages : held.Ages held') : held'.InOrder where
  onePending id period := by
    refine Nat.le_trans ?_ (h.onePending id period)
    have hjournals := hages.journalsOf id period
    generalize held.journalsOf id period = journals, held'.journalsOf id period = journals' at hjournals
    induction hjournals with
    | nil => exact Nat.le_refl _
    | @cons j j' _ _ hage _ ih =>
      by_cases hpending : j'.isPending
      · rw [List.filter_cons_of_pos hpending, List.filter_cons_of_pos (hage.pending hpending)]
        exact Nat.succ_le_succ ih
      · rw [List.filter_cons_of_neg hpending]
        exact Nat.le_trans ih ((List.sublist_cons_self ..).filter _).length_le
  names id period := by
    have hjournals := hages.journalsOf id period
    rw [← hjournals.length_eq, ← h.names id period]
    exact map_eq_map_of_forall₂ hjournals fun _ _ _ hage => hage.name
  ids := by
    rw [map_eq_map_of_forall₂ hages fun _ _ _ hage => hage.2.id]
    exact h.ids

end InOrder

theorem Adds.journalsOf (h : Adds n j held held') (id : String) (period : Period) :
    held'.journalsOf id period =
      held.journalsOf id period ++ if IsOf id period (n.authorizationId, j) then [j] else [] := by
  rw [h.eq_append, journalsOf_append]
  congr 1
  by_cases hof : IsOf id period (n.authorizationId, j) <;> simp [Holdings.journalsOf, hof]

/-- A new journal with the next number keeps the order where none is pending. -/
theorem InOrder.adds {p : Plan} (h : held.InOrder)
    (hnone : ∀ j ∈ held.journalsOf id p.period, ¬ j.isPending)
    (hadds : Adds (p.newJournal id ((held.journalsOf id p.period).length + 1)) j held held') :
    held'.InOrder := by
  have hof : IsOf id p.period (id, j) := ⟨rfl, by rw [hadds.externalIds]; rfl⟩
  -- of all pairs of an authorization and a period only this one gets a journal
  have hjournals : ∀ id' period', held'.journalsOf id' period' = held.journalsOf id' period' ++
      if IsOf id' period' (id, j) then [j] else [] := hadds.journalsOf
  refine ⟨fun id' period' => ?_, fun id' period' => ?_, ?_⟩
  · rw [hjournals]
    by_cases hof' : IsOf id' period' (id, j)
    · obtain ⟨rfl, rfl⟩ := hof.unique hof'
      have hempty : (held.journalsOf id p.period).filter (·.isPending) = [] :=
        List.filter_eq_nil_iff.mpr hnone
      rw [if_pos hof', List.filter_append, hempty, List.nil_append]
      exact List.length_filter_le _ _
    · rw [if_neg hof', List.append_nil]
      exact h.onePending id' period'
  · rw [hjournals]
    by_cases hof' : IsOf id' period' (id, j)
    · obtain ⟨rfl, rfl⟩ := hof.unique hof'
      rw [if_pos hof', List.map_append, h.names, List.length_append, List.map_singleton, hadds.name,
        numbered, numbered, List.length_singleton, List.range_succ, List.map_append, List.map_singleton]
      rfl
    · rw [if_neg hof', List.append_nil]
      exact h.names id' period'
  · rw [hadds.eq_append, List.map_append, List.map_singleton]
    refine List.nodup_append.mpr ⟨h.ids, List.nodup_singleton _, ?_⟩
    intro idBefore hbefore _ hnew heq
    obtain ⟨e, he, rfl⟩ := List.mem_map.mp hbefore
    exact hadds.fresh e he (heq.trans (List.mem_singleton.mp hnew))

end Holdings

end CostJournal
