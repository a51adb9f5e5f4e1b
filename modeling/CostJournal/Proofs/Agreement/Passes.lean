import CostJournal.Generator.Basic
import CostJournal.Proofs.Turns

/-!
# The passes of an agreement

What one pass does (`addPass_cases`) and, by induction over the passes, what all of them do
(`foldlM_addPass_ends`): each asks for the costs of its account, and those that return append their
lines.
-/

namespace CostJournal

theorem CostQuery.recordTypes_inj {period : Period} {id id' : String} :
    recordTypes period id = recordTypes period id' ↔ id = id' := by
  simp [recordTypes, ofPeriod]

theorem CostQuery.invoiceEntities_ne_recordTypes (period : Period) (id id' : String) :
    invoiceEntities period id ≠ recordTypes period id' := by
  simp [invoiceEntities, recordTypes, ofPeriod, GroupDefinition.dimension, Dimension.service,
    Dimension.recordType]

theorem CostQuery.marketplaceUsage_ne_recordTypes (period : Period) (id : String) :
    marketplaceUsage period ≠ recordTypes period id := by
  simp [marketplaceUsage, recordTypes, ofPeriod, GroupDefinition.dimension, Dimension.linkedAccount,
    Dimension.recordType]

/-- The calls between two worlds ask for the costs by record type of exactly these accounts. -/
def CostsAsked {σ : Type} (period : Period) (accounts : List String) (w w' : World σ) : Prop :=
  ∃ new, w'.calls = w.calls ++ new ∧
    ∀ id, .costAndUsage (.recordTypes period id) ∈ new ↔ id ∈ accounts

namespace CostsAsked
variable {σ : Type} {period : Period} {accounts others : List String} {w w₁ w' : World σ}

theorem refl (period : Period) (w : World σ) : CostsAsked period [] w w := ⟨[], by simp, by simp⟩

theorem append (h : CostsAsked period accounts w w₁) (h' : CostsAsked period others w₁ w') :
    CostsAsked period (accounts ++ others) w w' := by
  obtain ⟨new, hcalls, hmem⟩ := h
  obtain ⟨new', hcalls', hmem'⟩ := h'
  refine ⟨new ++ new', by rw [hcalls', hcalls, List.append_assoc], fun id => ?_⟩
  rw [List.mem_append, List.mem_append, hmem, hmem']

theorem of_other {call : Call} (h : w'.calls = w.calls ++ [call])
    (hne : ∀ id, call ≠ .costAndUsage (.recordTypes period id)) : CostsAsked period [] w w' := by
  refine ⟨[call], h, fun id => ?_⟩
  rw [List.mem_singleton]
  exact iff_of_false (fun heq => hne id heq.symm) List.not_mem_nil

theorem of_recordTypes {id : String} (h : w'.calls = w.calls ++ [.costAndUsage (.recordTypes period id)]) :
    CostsAsked period [id] w w' := by
  refine ⟨_, h, fun id' => ?_⟩
  simp [CostQuery.recordTypes_inj]

end CostsAsked

namespace Generator
variable {σ : Type} {c : Collaborators σ} {p : Plan} {s : Scope σ} {w w' : World σ}

/-- The pass over the account of `q`, with its reports. -/
def Scope.pass (s : Scope σ) (q : Subscription × String) (costs entities : Report) : AccountPass :=
  ⟨q.2, q.1.lines, s.details, s.invoices, s.marketplace, costs, entities⟩

/-- The pass is made over the account of `q` with the items of its subscription. -/
structure IsPassOf (s : Scope σ) (q : Subscription × String) (pass : AccountPass) : Prop where
  accountId : pass.accountId = q.2
  items : pass.items = q.1.lines
  details : pass.details = s.details
  invoices : pass.invoices = s.invoices
  marketplace : pass.marketplace = s.marketplace

/-- A pass asks for the costs of its account and, once it has them, for the entities that invoice them. -/
theorem processAccount_calls {accountId : String} {items : List SubscriptionLine}
    {r : Except Failure AccountOutcome} (h : (processAccount p s accountId items).Ends w r w') :
    w'.calls = w.calls ++ [.costAndUsage (.recordTypes p.period accountId)] ∨
      w'.calls = w.calls ++ [.costAndUsage (.recordTypes p.period accountId),
        .costAndUsage (.invoiceEntities p.period accountId)] := by
  rcases Task.ends_provide_bind.mp h with ⟨e, failed, -, -, rfl⟩ | ⟨costs, reported, -, h⟩
  · exact .inl rfl
  right
  rcases Task.ends_provide_bind.mp h with ⟨e, failed, -, -, rfl⟩ | ⟨entities, ready, -, h⟩
  · exact List.append_assoc ..
  · rw [(Task.ends_compute.mp h).2]
    exact List.append_assoc ..

theorem processAccount_asks {accountId : String} {items : List SubscriptionLine}
    {r : Except Failure AccountOutcome} (h : (processAccount p s accountId items).Ends w r w') :
    CostsAsked p.period [accountId] w w' := by
  rcases processAccount_calls h with hcalls | hcalls
  · exact .of_recordTypes hcalls
  · refine ⟨_, hcalls, fun id => ?_⟩
    simp [CostQuery.recordTypes_inj, (CostQuery.invoiceEntities_ne_recordTypes p.period accountId id).symm]

theorem processAccount_ok {q : Subscription × String} {account : AccountOutcome}
    (h : (processAccount p s q.2 q.1.lines).Ends w (.ok account) w') :
    ∃ pass, IsPassOf s q pass ∧ (pass.outcome p.table p.logged).Returns account := by
  obtain ⟨costs, w₁, -, h⟩ := Task.ends_bind_ok.mp h
  obtain ⟨entities, w₂, -, h⟩ := Task.ends_bind_ok.mp h
  exact ⟨⟨q.2, q.1.lines, s.details, s.invoices, s.marketplace, costs, entities⟩,
    ⟨rfl, rfl, rfl, rfl, rfl⟩, (Task.ends_compute.mp h).1⟩

/-- What the operators are told of a pass that fails. -/
def passNotice (agreementId : String) (subscription : Subscription) (e : Failure) : Notice where
  kind := .error
  title := "Billing journal failed for subscription " ++ subscription.id
  text := "Agreement " ++ agreementId ++ ": " ++ e.message

/-- A pass that returns is added, and one that fails is told and leaves everything as it was. -/
theorem addPass_cases {agreementId : String} {o o' : AgreementOutcome} {q : Subscription × String}
    (h : (addPass c p s agreementId o q.1 q.2).Ends w o' w') :
    (∃ account, (processAccount p s q.2 q.1.lines).Ends w (.ok account) w' ∧
      o' = o.addAccount q.2 account) ∨
    ∃ e w₁, (processAccount p s q.2 q.1.lines).Ends w (.error e) w₁ ∧
      w'.calls = w₁.calls ++ [.notify (passNotice agreementId q.1 e)] ∧ o' = o := by
  obtain ⟨r, w₁, hprocess, h⟩ := Run.ends_bind.mp h
  match r with
  | .ok account =>
    obtain ⟨rfl, rfl⟩ := Run.ends_pure.mp h
    exact .inl ⟨account, hprocess, rfl⟩
  | .error e =>
    obtain ⟨_, w₂, htell, h⟩ := Run.ends_bind.mp h
    obtain ⟨rfl, rfl⟩ := Run.ends_pure.mp h
    exact .inr ⟨e, w₁, hprocess, by rw [Run.ends_tell.mp htell]; rfl, rfl⟩

theorem addPass_ends {agreementId : String} {o o' : AgreementOutcome} {q : Subscription × String}
    (h : (addPass c p s agreementId o q.1 q.2).Ends w o' w') :
    CostsAsked p.period [q.2] w w' ∧
      (o' = o ∨ ∃ pass account, IsPassOf s q pass ∧ (pass.outcome p.table p.logged).Returns account ∧
        o' = o.addAccount q.2 account) := by
  rcases addPass_cases h with ⟨account, hprocess, rfl⟩ | ⟨e, w₁, hprocess, hcalls, rfl⟩
  · obtain ⟨pass, hof, hreturns⟩ := processAccount_ok hprocess
    exact ⟨processAccount_asks hprocess, .inr ⟨pass, account, hof, hreturns, rfl⟩⟩
  · exact ⟨(processAccount_asks hprocess).append (.of_other hcalls (by simp)), .inl rfl⟩

/-- The passes that returned, in the order in which they were made. -/
inductive Made (p : Plan) (s : Scope σ) :
    List (Subscription × String) → List (AccountPass × AccountOutcome) → Prop
  | nil : Made p s [] []
  | failed {q : Subscription × String} {qs : List (Subscription × String)}
    {made : List (AccountPass × AccountOutcome)} : Made p s qs made → Made p s (q :: qs) made
  | returned {q : Subscription × String} {pass : AccountPass} {account : AccountOutcome}
    {qs : List (Subscription × String)} {made : List (AccountPass × AccountOutcome)} :
    IsPassOf s q pass → (pass.outcome p.table p.logged).Returns account → Made p s qs made →
      Made p s (q :: qs) ((pass, account) :: made)

namespace Made
variable {qs : List (Subscription × String)} {made : List (AccountPass × AccountOutcome)}

theorem forall_returns (h : Made p s qs made) :
    ∀ m ∈ made, (m.1.outcome p.table p.logged).Returns m.2 := by
  induction h with
  | nil => simp
  | failed _ ih => exact ih
  | returned _ hreturns _ ih => exact List.forall_mem_cons.mpr ⟨hreturns, ih⟩

theorem sublist_accounts (h : Made p s qs made) :
    ((made.map (·.1)).map (·.accountId)).Sublist (qs.map (·.2)) := by
  induction h with
  | nil => exact .slnil
  | failed _ ih => exact ih.cons _
  | returned hof _ _ ih =>
    rw [List.map_cons, List.map_cons, List.map_cons, hof.accountId]
    exact ih.cons_cons _

end Made

theorem foldlM_addPass_ends {agreementId : String} {qs : List (Subscription × String)}
    {o o' : AgreementOutcome}
    (h : Run.Ends (qs.foldlM (fun o q => addPass c p s agreementId o q.1 q.2) o) w o' w') :
    CostsAsked p.period (qs.map (·.2)) w w' ∧
      ∃ made, Made p s qs made ∧ o'.lines = o.lines ++ made.flatMap (·.2.lines) := by
  induction qs generalizing o w with
  | nil =>
    obtain ⟨rfl, rfl⟩ := Run.ends_pure.mp h
    exact ⟨.refl _ _, [], .nil, by simp⟩
  | cons q qs ih =>
    rw [List.foldlM_cons] at h
    obtain ⟨o₁, w₁, hstep, h⟩ := Run.ends_bind.mp h
    obtain ⟨hasked, hadded⟩ := addPass_ends hstep
    obtain ⟨hrest, made, hmade, hlines⟩ := ih h
    refine ⟨hasked.append hrest, ?_⟩
    rcases hadded with rfl | ⟨pass, account, hof, hreturns, rfl⟩
    · exact ⟨made, .failed hmade, hlines⟩
    · refine ⟨(pass, account) :: made, .returned hof hreturns hmade, ?_⟩
      rw [hlines, List.flatMap_cons, ← List.append_assoc]
      rfl

end Generator

end CostJournal
