import CostJournal.Generator.Basic

/-!
# Which accounts an agreement bills

`Agreement.PassesAre` says which passes an agreement is due, without the searches of `passes`: one for each
subscription that is not over and is on an account (`OwnPasses`), in the order of the subscriptions, and after
these at most one over the paying account (`PayingAccountPass`). `passes` makes these and no others
(`Generator.passesAre_iff`).
-/

namespace CostJournal

namespace Subscription
variable {s : Subscription} {accountId : String}

/-- The subscription was terminated or has expired. -/
def IsOver (s : Subscription) : Prop := s.status = .terminated ∨ s.status = .expired

/-- The account is the vendor's id of the subscription. -/
def IsOn (s : Subscription) (accountId : String) : Prop :=
  s.externalIds.vendor = some accountId ∧ accountId ≠ ""

theorem isTerminated_iff : s.isTerminated = true ↔ s.IsOver := by
  rw [isTerminated, SubscriptionStatus.isTerminated, Bool.or_eq_true, decide_eq_true_iff, decide_eq_true_iff]
  rfl

theorem accountId?_eq_some : s.accountId? = some accountId ↔ s.IsOn accountId := by
  rw [accountId?, VendorIds.nonempty?, Option.filter_eq_some_iff, bne_iff_ne]
  rfl

theorem accountId?_eq_none : s.accountId? = none ↔ ∀ accountId, ¬ s.IsOn accountId := by
  simp only [Option.eq_none_iff_forall_ne_some, ne_eq, accountId?_eq_some]

end Subscription

/-- One pass for each subscription that is not over and is on an account, in the order of the subscriptions. -/
inductive OwnPasses : List Subscription → List (Subscription × String) → Prop
  | nil : OwnPasses [] []
  | made {s : Subscription} {accountId : String} {ss : List Subscription} {qs : List (Subscription × String)} :
    ¬ s.IsOver → s.IsOn accountId → OwnPasses ss qs → OwnPasses (s :: ss) ((s, accountId) :: qs)
  | ended {s : Subscription} {ss : List Subscription} {qs : List (Subscription × String)} :
    s.IsOver → OwnPasses ss qs → OwnPasses (s :: ss) qs
  | withoutAccount {s : Subscription} {ss : List Subscription} {qs : List (Subscription × String)} :
    (∀ accountId, ¬ s.IsOn accountId) → OwnPasses ss qs → OwnPasses (s :: ss) qs

namespace Agreement
variable {a : Agreement} {mpaId : String} {s : Subscription}

/-- The paying account is billed with the items of the first subscription that is not over, unless it is billed
elsewhere or some subscription, over or not, is on it. -/
inductive PayingAccountPass (a : Agreement) (mpaId : String) : List (Subscription × String) → Prop
  | made {s : Subscription} {before after : List Subscription} : a.isSplitBilling = false →
    (∀ s' ∈ a.subscriptions, ¬ s'.IsOn mpaId) → a.subscriptions = before ++ s :: after →
    (∀ s' ∈ before, s'.IsOver) → ¬ s.IsOver → PayingAccountPass a mpaId [(s, mpaId)]
  | splitOff : a.isSplitBilling = true → PayingAccountPass a mpaId []
  | onIt {s : Subscription} : s ∈ a.subscriptions → s.IsOn mpaId → PayingAccountPass a mpaId []
  | allOver : (∀ s ∈ a.subscriptions, s.IsOver) → PayingAccountPass a mpaId []

/-- The passes that are due for an agreement with that paying account. -/
def PassesAre (a : Agreement) (mpaId : String) (qs : List (Subscription × String)) : Prop :=
  ∃ own paying, qs = own ++ paying ∧ OwnPasses a.subscriptions own ∧ a.PayingAccountPass mpaId paying

theorem firstActiveSubscription?_eq_some : a.firstActiveSubscription? = some s ↔
    ¬ s.IsOver ∧ ∃ before after, a.subscriptions = before ++ s :: after ∧ ∀ s' ∈ before, s'.IsOver := by
  simp only [firstActiveSubscription?, List.find?_eq_some_iff_append, Bool.not_eq_true', Bool.not_not,
    ← Subscription.isTerminated_iff, Bool.not_eq_true]

theorem firstActiveSubscription?_eq_none : a.firstActiveSubscription? = none ↔
    ∀ s ∈ a.subscriptions, s.IsOver := by
  simp only [firstActiveSubscription?, List.find?_eq_none, Bool.not_eq_true', Bool.not_eq_false,
    Subscription.isTerminated_iff]

theorem any_accountId?_eq : a.subscriptions.any (fun s => s.accountId? == some mpaId) = true ↔
    ∃ s ∈ a.subscriptions, s.IsOn mpaId := by
  simp only [List.any_eq_true, beq_iff_eq, Subscription.accountId?_eq_some]

theorem mpaSubscription?_eq_some : a.mpaSubscription? mpaId = some s ↔ a.isSplitBilling = false ∧
    (∀ s' ∈ a.subscriptions, ¬ s'.IsOn mpaId) ∧ a.firstActiveSubscription? = some s := by
  unfold mpaSubscription?
  cases a.isSplitBilling with
  | true => exact iff_of_false nofun nofun
  | false =>
    rw [if_neg Bool.false_ne_true]
    by_cases hany : ∃ s ∈ a.subscriptions, s.IsOn mpaId
    · obtain ⟨s', hs', hon⟩ := hany
      rw [if_pos (any_accountId?_eq.mpr ⟨s', hs', hon⟩)]
      exact iff_of_false nofun fun h => h.2.1 s' hs' hon
    · rw [if_neg (hany ∘ any_accountId?_eq.mp)]
      exact ⟨fun h => ⟨rfl, fun s' hs' hon => hany ⟨s', hs', hon⟩, h⟩, fun h => h.2.2⟩

theorem payingAccountPass_iff {qs : List (Subscription × String)} : a.PayingAccountPass mpaId qs ↔
    qs = ((a.mpaSubscription? mpaId).map (·, mpaId)).toList := by
  have hnone (h : ∀ s, a.mpaSubscription? mpaId ≠ some s) :
      [] = ((a.mpaSubscription? mpaId).map (·, mpaId)).toList := by
    rw [Option.eq_none_iff_forall_ne_some.mpr h]
    rfl
  constructor
  · intro h
    cases h with
    | made hsplit hon hsubs hbefore hlive =>
      rw [mpaSubscription?_eq_some.mpr ⟨hsplit, hon,
        firstActiveSubscription?_eq_some.mpr ⟨hlive, _, _, hsubs, hbefore⟩⟩]
      rfl
    | splitOff hsplit => exact hnone fun s hs => Bool.false_ne_true ((mpaSubscription?_eq_some.mp hs).1 ▸ hsplit)
    | onIt hmem hon => exact hnone fun s hs => (mpaSubscription?_eq_some.mp hs).2.1 _ hmem hon
    | allOver hover =>
      refine hnone fun s hs => ?_
      cases (mpaSubscription?_eq_some.mp hs).2.2.symm.trans (firstActiveSubscription?_eq_none.mpr hover)
  · rintro rfl
    match hmpa : a.mpaSubscription? mpaId with
    | some s =>
      obtain ⟨hsplit, hon, hfirst⟩ := mpaSubscription?_eq_some.mp hmpa
      obtain ⟨hlive, before, after, hsubs, hbefore⟩ := firstActiveSubscription?_eq_some.mp hfirst
      exact .made hsplit hon hsubs hbefore hlive
    | none =>
      by_cases hsplit : a.isSplitBilling = true
      · exact .splitOff hsplit
      by_cases hon : ∃ s ∈ a.subscriptions, s.IsOn mpaId
      · obtain ⟨s, hs, hon⟩ := hon
        exact .onIt hs hon
      -- no condition but the last is left to keep the pass from being made
      refine .allOver (firstActiveSubscription?_eq_none.mp (Option.eq_none_iff_forall_ne_some.mpr fun s hs => ?_))
      have hnot : ∀ s' ∈ a.subscriptions, ¬ s'.IsOn mpaId := fun s' hs' hon' => hon ⟨s', hs', hon'⟩
      cases hmpa.symm.trans (mpaSubscription?_eq_some.mpr ⟨Bool.eq_false_iff.mpr hsplit, hnot, hs⟩)

end Agreement

namespace Generator

theorem ownPasses_iff {ss : List Subscription} {qs : List (Subscription × String)} : OwnPasses ss qs ↔
    qs = ss.filterMap fun s => if s.isTerminated then none else s.accountId?.map (s, ·) := by
  constructor
  · intro h
    induction h with
    | nil => rfl
    | made hlive hon _ ih =>
      rw [List.filterMap_cons, if_neg (hlive ∘ Subscription.isTerminated_iff.mp),
        Subscription.accountId?_eq_some.mpr hon, ih]
      rfl
    | ended hover _ ih => rw [List.filterMap_cons, if_pos (Subscription.isTerminated_iff.mpr hover), ih]
    | withoutAccount hnone _ ih =>
      rw [List.filterMap_cons, Subscription.accountId?_eq_none.mpr hnone, Option.map_none, ite_self, ih]
  · rintro rfl
    induction ss with
    | nil => exact .nil
    | cons s ss ih =>
      rw [List.filterMap_cons]
      by_cases hover : s.isTerminated = true
      · rw [if_pos hover]
        exact .ended (Subscription.isTerminated_iff.mp hover) ih
      rw [if_neg hover]
      match haccount : s.accountId? with
      | some accountId =>
        exact .made (hover ∘ Subscription.isTerminated_iff.mpr) (Subscription.accountId?_eq_some.mp haccount) ih
      | none => exact .withoutAccount (Subscription.accountId?_eq_none.mp haccount) ih

/-- The passes that are due are made, and no others. -/
theorem passesAre_iff {a : Agreement} {mpaId : String} {qs : List (Subscription × String)} :
    a.PassesAre mpaId qs ↔ qs = passes a mpaId := by
  simp only [Agreement.PassesAre, ownPasses_iff, Agreement.payingAccountPass_iff]
  constructor
  · rintro ⟨_, _, rfl, rfl, rfl⟩
    rfl
  · rintro rfl
    exact ⟨_, _, rfl, rfl, rfl⟩

end Generator

end CostJournal
