import CostJournal.Proofs.Agreement.Admission
import CostJournal.Proofs.Agreement.Selection

/-!
# The pass over the paying account

Two places decide whether the paying account is billed: the passes over subscriptions leave out the
terminated ones, and the extra pass is left out when any subscription is on the paying account. So
an account with terminated subscriptions only is billed by neither: `payingAccount_asked_iff` gives
the exact condition, and `payingAccount_not_asked` a run without that pass.
-/

namespace CostJournal

namespace Agreement
variable {a : Agreement} {mpaId : String}

/-- A subscription that is not terminated. -/
def HasLive (a : Agreement) : Prop := ∃ s ∈ a.subscriptions, s.isTerminated = false

/-- If subscriptions are on the account at all, then one of them is not terminated. -/
def LiveOn (a : Agreement) (accountId : String) : Prop :=
  (∀ s ∈ a.subscriptions, s.accountId? ≠ some accountId) ∨
    ∃ s ∈ a.subscriptions, s.accountId? = some accountId ∧ s.isTerminated = false

theorem mpaSubscription?_isSome (hsplit : a.isSplitBilling = false) (hlive : a.HasLive) :
    (a.mpaSubscription? mpaId).isSome ↔ ∀ s ∈ a.subscriptions, s.accountId? ≠ some mpaId := by
  have hsome : a.firstActiveSubscription?.isSome := by
    obtain ⟨s, hs, hterm⟩ := hlive
    rw [firstActiveSubscription?, List.find?_isSome]
    exact ⟨s, hs, by rw [hterm]; rfl⟩
  obtain ⟨first, hfirst⟩ := Option.isSome_iff_exists.mp hsome
  rw [Option.isSome_iff_exists]
  constructor
  · rintro ⟨_, hmpa⟩ s hs haccount
    exact (mpaSubscription?_eq_some.mp hmpa).2.1 s hs (Subscription.accountId?_eq_some.mp haccount)
  · intro hnone
    exact ⟨first, mpaSubscription?_eq_some.mpr
      ⟨hsplit, fun s hs hon => hnone s hs (Subscription.accountId?_eq_some.mpr hon), hfirst⟩⟩

end Agreement

namespace Generator
variable {a : Agreement} {mpaId : String}

theorem mem_passes {accountId : String} : accountId ∈ (passes a mpaId).map (·.2) ↔
    (∃ s ∈ a.subscriptions, s.accountId? = some accountId ∧ s.isTerminated = false) ∨
      (accountId = mpaId ∧ (a.mpaSubscription? mpaId).isSome) := by
  have hloop : accountId ∈ (a.subscriptions.filterMap fun s =>
        if s.isTerminated then none else s.accountId?.map (s, ·)).map (·.2) ↔
      ∃ s ∈ a.subscriptions, s.accountId? = some accountId ∧ s.isTerminated = false := by
    rw [List.map_filterMap, List.mem_filterMap]
    refine exists_congr fun s => and_congr_right fun _ => ?_
    cases s.isTerminated <;> simp
  have hextra : accountId ∈ ((a.mpaSubscription? mpaId).map (·, mpaId)).toList.map (·.2) ↔
      accountId = mpaId ∧ (a.mpaSubscription? mpaId).isSome := by
    cases a.mpaSubscription? mpaId <;> simp
  rw [passes, List.map_append, List.mem_append, hloop, hextra]

/-- Among the passes there is one over the paying account when a live subscription is on it, or else
no subscription at all. -/
theorem mpaId_mem_passes (hsplit : a.isSplitBilling = false) (hlive : a.HasLive) :
    mpaId ∈ (passes a mpaId).map (·.2) ↔ a.LiveOn mpaId := by
  rw [mem_passes, Agreement.mpaSubscription?_isSome hsplit hlive, Agreement.LiveOn, or_comm]
  simp only [true_and]

/-- An agreement that is not split, has a live subscription and whose paying account is admitted ends
well; it asks for the costs of that account exactly when a live subscription or none at all is on it. -/
theorem payingAccount_asked_iff {σ : Type} {c : Collaborators σ} {p : Plan} {currency : String}
    {s : Scope σ} {ready : σ} {w w' : World σ} {r : Except Failure AgreementOutcome}
    (hmpa : a.mpaId? = some mpaId) (hsplit : a.isSplitBilling = false) (hlive : a.HasLive)
    (hadmits : Admits c p currency a mpaId w.state s ready)
    (h : (reconcileAgreement c p currency a).Ends w r w') :
    (∃ o, r = .ok o) ∧ ∃ new, w'.calls = w.calls ++ new ∧
      (.costAndUsage (.recordTypes p.period mpaId) ∈ new ↔ a.LiveOn mpaId) := by
  obtain ⟨o, _, hr, -, -, new, hcalls, hasked⟩ := reconcileAgreement_ends hmpa hadmits h
  exact ⟨⟨o, hr⟩, new, hcalls, (hasked mpaId).trans (mpaId_mem_passes hsplit hlive)⟩

/-- A subscription on the paying account was replaced, and a member account has one too. -/
def replacedOnMpa : Agreement :=
  .ofSubscriptions "123456789012" [(.terminated, "123456789012", []), (.active, "123456789012", []),
    (.active, "210987654321", [])]

theorem payingAccount_asked_replacedOnMpa :
    replacedOnMpa.mpaId? = some "123456789012" ∧ replacedOnMpa.isSplitBilling = false ∧
      replacedOnMpa.HasLive ∧ replacedOnMpa.LiveOn "123456789012" ∧
      Admits (.answering .empty) .standard "USD" replacedOnMpa "123456789012" ()
        (.answering .empty replacedOnMpa "123456789012") () ∧
      ∃ r w', (reconcileAgreement (.answering .empty) .standard "USD" replacedOnMpa).Ends ⟨(), []⟩ r w' ∧
        (∃ o, r = .ok o) ∧ ∃ new, w'.calls = [] ++ new ∧
          (.costAndUsage (.recordTypes Plan.standard.period "123456789012") ∈ new ↔
            replacedOnMpa.LiveOn "123456789012") := by
  have hmpa : replacedOnMpa.mpaId? = some "123456789012" := by decide
  have hsplit : replacedOnMpa.isSplitBilling = false := by decide
  have hlive : replacedOnMpa.HasLive := ⟨_, List.mem_cons_of_mem _ List.mem_cons_self, by decide⟩
  have hon : replacedOnMpa.LiveOn "123456789012" :=
    .inr ⟨_, List.mem_cons_of_mem _ List.mem_cons_self, by decide, by decide⟩
  have hadmits := admits_answering .empty replacedOnMpa "USD" "123456789012"
  have hends : (Run.value? (ExceptT.run
      (reconcileAgreement (.answering .empty) .standard "USD" replacedOnMpa)) ⟨(), []⟩).isSome := by
    decide +kernel
  obtain ⟨⟨r, w'⟩, hvalue⟩ := Option.isSome_iff_exists.mp hends
  have hends := Run.value?_eq_some.mp hvalue
  exact ⟨hmpa, hsplit, hlive, hon, hadmits, r, w', hends,
    payingAccount_asked_iff hmpa hsplit hlive hadmits hends⟩

/-- The only subscription on the paying account is terminated, and a member account has a live one. -/
def terminatedOnMpa : Agreement :=
  .ofSubscriptions "123456789012" [(.terminated, "123456789012", []), (.active, "210987654321", [])]

theorem payingAccount_not_asked :
    terminatedOnMpa.mpaId? = some "123456789012" ∧ terminatedOnMpa.isSplitBilling = false ∧
      terminatedOnMpa.HasLive ∧
      Admits (.answering .empty) .standard "USD" terminatedOnMpa "123456789012" ()
        (.answering .empty terminatedOnMpa "123456789012") () ∧
      ∃ r w', (reconcileAgreement (.answering .empty) .standard "USD" terminatedOnMpa).Ends ⟨(), []⟩ r w' ∧
        .costAndUsage (.recordTypes Plan.standard.period "123456789012") ∉ w'.calls := by
  have hlive : terminatedOnMpa.HasLive := ⟨_, List.mem_cons_of_mem _ List.mem_cons_self, by decide⟩
  have hcalls : (Run.value? (ExceptT.run
      (reconcileAgreement (.answering .empty) .standard "USD" terminatedOnMpa)) ⟨(), []⟩).map
        (fun e => decide (.costAndUsage (.recordTypes Plan.standard.period "123456789012") ∈ e.2.calls)) =
      some false := by
    decide +kernel
  obtain ⟨⟨r, w'⟩, hvalue, hnot⟩ := Option.map_eq_some_iff.mp hcalls
  exact ⟨by decide, by decide, hlive, admits_answering .empty terminatedOnMpa "USD" "123456789012",
    r, w', Run.value?_eq_some.mp hvalue, of_decide_eq_false hnot⟩

end Generator

end CostJournal
