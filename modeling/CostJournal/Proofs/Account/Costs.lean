import CostJournal.Proofs.Account.OutOfRange
import CostJournal.Proofs.Decimal.Sums
import CostJournal.Proofs.SortedMap

/-!
# Costs of services

The costs that are observed for a service are the sum of its positive amounts, in the order of the rows
(`get?_foldlM_addCost`). If no addition rounds, that is their exact sum whatever the order, so rows in another order
give the same costs, or an amount that is not read in both (`observedCosts_alike`).
-/

namespace CostJournal.Report
variable {r r' : Report} {service : String} {rows : List (String × String)} {row : String × String}
  {m m' : SortedMap Decimal} {cs : List Decimal} {held out : Option Decimal}

/-- What a row of a service and an amount text adds to the cost of a service. -/
def rowCost? (service : String) (row : String × String) : Option Decimal :=
  if row.1 = service then (Amount.ofReport row.2).toOption.filter (Decimal.zero < ·) else none

def costsOf (r : Report) (service : String) : List Decimal := r.costRows.filterMap (rowCost? service)

/-- No addition to the cost of a service loses anything: the sums have their exact values. -/
def AddsExactly (r : Report) : Prop := ∀ service, Decimal.AddsUp Decimal.IsExactSum .zero (r.costsOf service)

/-- No addition to the cost of a service has to round, not even a zero off: every sum has room for all places. -/
def AddsInFull (r : Report) : Prop := ∀ service, Decimal.AddsUp Decimal.IsFullSum .zero (r.costsOf service)

/-- Only the services of the rows have amounts to add. -/
theorem addsInFull_iff : r.AddsInFull ↔
    ∀ row ∈ r.costRows, Decimal.AddsUp Decimal.IsFullSum .zero (r.costsOf row.1) := by
  refine ⟨fun h row _ => h row.1, fun h service => ?_⟩
  by_cases hservice : ∃ row ∈ r.costRows, row.1 = service
  · obtain ⟨row, hrow, rfl⟩ := hservice
    exact h row hrow
  · have hnone : r.costsOf service = [] :=
      List.filterMap_eq_nil_iff.mpr fun row hrow => if_neg fun heq => hservice ⟨row, hrow, heq⟩
    rw [hnone]
    trivial

instance (r : Report) : Decidable r.AddsInFull := decidable_of_iff _ addsInFull_iff.symm

/-- The cost of a service, if it has any so far, with one more amount. -/
def addTo (held : Option Decimal) (c : Decimal) : Checked (Option Decimal) := ((held.getD .zero).add c).map some

theorem foldlM_addTo (h : cs.foldlM addTo held = .ok out) :
    cs.foldlM Decimal.add (held.getD .zero) = .ok (out.getD .zero) ∧ (out = none ↔ held = none ∧ cs = []) := by
  induction cs generalizing held with
  | nil =>
    cases pure_eq_ok.mp h
    exact ⟨rfl, (and_iff_left rfl).symm⟩
  | cons c cs ih =>
    rw [List.foldlM_cons] at h
    obtain ⟨_, hc, h⟩ := bind_eq_ok.mp h
    obtain ⟨d, hd, rfl⟩ := map_eq_ok.mp hc
    obtain ⟨hsum, hnone⟩ := ih h
    refine ⟨?_, hnone.trans (iff_of_false (fun h => nomatch h.1) (fun h => nomatch h.2))⟩
    rw [List.foldlM_cons, hd]
    exact hsum

theorem rowCost?_of_read {amount : Decimal} (h : Amount.ofReport row.2 = .ok amount) :
    rowCost? service row = if row.1 = service ∧ Decimal.zero < amount then some amount else none := by
  rw [rowCost?, h]
  by_cases hservice : row.1 = service
  · by_cases hpos : Decimal.zero < amount <;> simp [hservice, hpos, Except.toOption, Option.filter]
  · simp [hservice]

theorem get?_addCost (h : (addCost m row).Returns m') (service : String) :
    (rowCost? service row).toList.foldlM addTo (m.get? service) = .ok (m'.get? service) := by
  obtain ⟨amount, hamount, h⟩ := Billing.returns_bind.mp h
  rw [rowCost?_of_read (Billing.returns_ofExcept.mp hamount)]
  by_cases hpos : Decimal.zero < amount
  · rw [if_pos hpos] at h
    obtain ⟨d, hd, h⟩ := Billing.returns_bind.mp h
    cases Billing.returns_pure.mp h
    by_cases hservice : row.1 = service
    · rw [if_pos ⟨hservice, hpos⟩, ← hservice, SortedMap.get?_insert_self, Option.toList_some, List.foldlM_cons,
        addTo, Billing.returns_liftM.mp hd]
      rfl
    · rw [if_neg fun h => hservice h.1, SortedMap.get?_insert_of_ne _ _ (Ne.symm hservice)]
      rfl
  · rw [if_neg hpos] at h
    cases Billing.returns_pure.mp h
    rw [if_neg fun h => hpos h.2]
    rfl

theorem get?_foldlM_addCost (h : (rows.foldlM addCost m).Returns m') (service : String) :
    (rows.filterMap (rowCost? service)).foldlM addTo (m.get? service) = .ok (m'.get? service) := by
  induction rows generalizing m with
  | nil =>
    cases Billing.returns_pure.mp h
    rfl
  | cons row rows ih =>
    rw [List.foldlM_cons] at h
    obtain ⟨m₁, hrow, h⟩ := Billing.returns_bind.mp h
    have hsplit : (row :: rows).filterMap (rowCost? service) =
        (rowCost? service row).toList ++ rows.filterMap (rowCost? service) := by
      rw [List.filterMap_cons]
      cases rowCost? service row <;> rfl
    rw [hsplit, List.foldlM_append, get?_addCost hrow]
    exact ih h

theorem read_of_returns (h : (rows.foldlM addCost m).Returns m') :
    ∀ row ∈ rows, ∃ amount, Amount.ofReport row.2 = .ok amount := by
  induction rows generalizing m with
  | nil => nofun
  | cons row rows ih =>
    rw [List.foldlM_cons] at h
    obtain ⟨m₁, hrow, h⟩ := Billing.returns_bind.mp h
    obtain ⟨amount, hamount, -⟩ := Billing.returns_bind.mp hrow
    exact List.forall_mem_cons.mpr ⟨⟨amount, Billing.returns_ofExcept.mp hamount⟩, ih h⟩

theorem not_read_of_fails {e : Failure} (h : r.observedCosts.Fails e) :
    ∃ row ∈ r.costRows, ∃ e, Amount.ofReport row.2 = .error e := by
  obtain ⟨before, row, after, observed, hrows, -, h⟩ := Billing.fails_foldlM.mp h
  refine ⟨row, hrows ▸ List.mem_append_right _ List.mem_cons_self, e, ?_⟩
  rcases Billing.fails_bind.mp h with h | ⟨amount, -, h⟩
  · exact Billing.fails_ofExcept.mp h
  · split at h
    · rcases Billing.fails_bind.mp h with h | ⟨_, -, h⟩
      · exact absurd h Billing.fails_liftM
      · exact absurd h Billing.fails_pure
    · exact absurd h Billing.fails_pure

theorem not_runsOut (h : r.AddsExactly) (o : Overflow) : ¬ r.observedCosts.RunsOut o := by
  intro hout
  obtain ⟨-, before, row, after, observed, amount, hrows, hbefore, hamount, hpos, hout⟩ :=
    observedCosts_runsOut.mp hout
  have hcosts : r.costsOf row.1 =
      before.filterMap (rowCost? row.1) ++ amount :: after.filterMap (rowCost? row.1) := by
    rw [costsOf, hrows, List.filterMap_append, List.filterMap_cons, rowCost?_of_read hamount, if_pos ⟨rfl, hpos⟩]
  -- the amount is one of the service, and what is added up before it has a sum with it
  have hadds := h row.1
  rw [hcosts] at hadds
  obtain ⟨hsum, -⟩ := foldlM_addTo (get?_foldlM_addCost hbefore row.1)
  obtain ⟨d, hd⟩ := hadds.exists_add hsum
  cases hd.symm.trans (Decimal.add_eq_error.mpr ⟨rfl, hout⟩)

theorem zero_lt_of_mem_costsOf {c : Decimal} (h : c ∈ r.costsOf service) : Decimal.zero < c := by
  obtain ⟨row, -, hc⟩ := List.mem_filterMap.mp h
  rw [rowCost?] at hc
  split at hc
  · exact of_decide_eq_true (Option.filter_eq_some_iff.mp hc).2
  · cases hc

theorem AddsInFull.exact_of_perm (h : r.AddsInFull) (hrows : r.costRows.Perm r'.costRows) : r'.AddsExactly :=
  fun service => (h service).exact_of_perm (fun _ => zero_lt_of_mem_costsOf) (hrows.filterMap _)

/-- A service has a cost if it has amounts, and then their sum. -/
theorem get?_observedCosts (h : r.observedCosts.Returns m) (hadds : r.AddsExactly) (service : String) :
    (m.get? service = none ↔ r.costsOf service = []) ∧
      ∀ d, m.get? service = some d → Decimal.IsSumOf (r.costsOf service) d := by
  obtain ⟨hsum, hnone⟩ := foldlM_addTo (get?_foldlM_addCost h service)
  refine ⟨hnone.trans (and_iff_right rfl), fun d hd => ?_⟩
  obtain ⟨d', hd', hisSum⟩ :=
    Decimal.isSumOf_of_addsUp Decimal.isSumOf_nil (fun c => zero_lt_of_mem_costsOf) (hadds service)
  rw [hd] at hsum
  cases hsum.symm.trans hd'
  rwa [List.append_nil] at hisSum

theorem eq_of_observedCosts (h : r.observedCosts.Returns m) (h' : r'.observedCosts.Returns m')
    (hrows : r.costRows.Perm r'.costRows) (hadds : r.AddsExactly) (hadds' : r'.AddsExactly) : m = m' := by
  refine SortedMap.eq_of_get?_eq fun service => ?_
  have hcosts : (r.costsOf service).Perm (r'.costsOf service) := hrows.filterMap _
  obtain ⟨hnone, hsome⟩ := get?_observedCosts h hadds service
  obtain ⟨hnone', hsome'⟩ := get?_observedCosts h' hadds' service
  match hd : m.get? service, hd' : m'.get? service with
  | none, none => rfl
  | some d, some d' => rw [((hsome d hd).perm hcosts).eq (hsome' d' hd')]
  | none, some d' => cases hd'.symm.trans (hnone'.mpr (hnone.mp hd ▸ hcosts).nil_eq.symm)
  | some d, none => cases hd.symm.trans (hnone.mpr (hnone'.mp hd' ▸ hcosts).eq_nil)

theorem observedCosts_alike (hrows : r.costRows.Perm r'.costRows) (hadds : r.AddsExactly) (hadds' : r'.AddsExactly) :
    Billing.Alike r.observedCosts r'.observedCosts := by
  rcases Billing.returns_or_fails (not_runsOut hadds) with ⟨m, hm⟩ | ⟨e, he⟩
  · rcases Billing.returns_or_fails (not_runsOut hadds') with ⟨m', hm'⟩ | ⟨e', he'⟩
    · obtain rfl := eq_of_observedCosts hm hm' hrows hadds hadds'
      exact .of_returns hm hm'
    · obtain ⟨row, hrow, _, herror⟩ := not_read_of_fails he'
      obtain ⟨amount, hamount⟩ := read_of_returns hm row (hrows.mem_iff.mpr hrow)
      cases hamount.symm.trans herror
  · rcases Billing.returns_or_fails (not_runsOut hadds') with ⟨m', hm'⟩ | ⟨e', he'⟩
    · obtain ⟨row, hrow, _, herror⟩ := not_read_of_fails he
      obtain ⟨amount, hamount⟩ := read_of_returns hm' row (hrows.mem_iff.mp hrow)
      cases hamount.symm.trans herror
    · exact .of_fails he he'

end CostJournal.Report
