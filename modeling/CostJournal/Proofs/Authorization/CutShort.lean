import CostJournal.Proofs.Account.OutOfRange
import CostJournal.Proofs.Authorization.Stages
import CostJournal.Proofs.Invoices.OutOfRange

/-!
# Where a run is cut short

An operation without a result is no failure: nothing tells it and nothing goes on after it, at whatever
depth it happens. Decimals are computed with in two places, where the invoices of an agreement are added up
(`OrganizationInvoices.RunOut`) and where the lines of a pass are computed (`AccountPass.RunsOut`). So a
run is cut short exactly when it comes to an agreement that runs out in one of them (`generate_stops_iff`),
and leaves the world as it was there: the journal of the authorization gets no upload, and what is listed
behind it gets nothing.
-/

namespace CostJournal
variable {σ : Type} {c : Collaborators σ} {p : Plan} {w w' : World σ} {o : Overflow}

/-- The call uploads nothing, and finds or creates a journal for this authorization only. -/
def Call.UploadsNothing (p : Plan) (id : String) : Call → Prop
  | .journals query => query = p.journalsQuery id
  | .createJournal new => new.authorizationId = id
  | .upload .. => False
  | .attach .. => False
  | _ => True

theorem callsLead_uploadsNothing (c : Collaborators σ) (p : Plan) (id : String) :
    CallsLead (CallsOnly (Call.UploadsNothing p id)) c fun _ => False where
  authorizations _ w := .after trivial w
  agreements _ w := .after trivial w
  upload _ _ _ _ h := h.elim
  attach _ _ _ h := h.elim
  connect _ w := .after trivial w
  provider _ _ _ _ := ⟨fun _ w => .after trivial w, fun _ _ w => .after trivial w⟩
  notify _ w := .after trivial w

namespace Generator

/-- The provider answers for the account of `q`, and the pass over it runs out of decimals. -/
inductive PassRunsOut (p : Plan) (s : Scope σ) (q : Subscription × String) (w : World σ) (o : Overflow) :
    World σ → Prop
  | reported {costs entities : Report} {answered ready : σ} :
    s.provider.costAndUsage (.recordTypes p.period q.2) w.state = (.ok costs, answered) →
    s.provider.costAndUsage (.invoiceEntities p.period q.2) answered = (.ok entities, ready) →
    (s.pass q costs entities).RunsOut p.table p.logged o →
    PassRunsOut p s q w o ⟨ready, w.calls ++ [.costAndUsage (.recordTypes p.period q.2),
      .costAndUsage (.invoiceEntities p.period q.2)]⟩

theorem processAccount_stops {s : Scope σ} {q : Subscription × String} :
    (processAccount p s q.2 q.1.lines).Stops w o w' ↔ PassRunsOut p s q w o w' := by
  unfold processAccount
  simp only [Task.stops_provide_bind, Task.stops_compute, AccountPass.outcome_runsOut, List.append_assoc]
  constructor
  · rintro ⟨costs, answered, hcosts, entities, ready, hentities, hout, rfl⟩
    exact .reported hcosts hentities hout
  · rintro ⟨hcosts, hentities, hout⟩
    exact ⟨_, _, hcosts, _, _, hentities, hout, rfl⟩

theorem addPass_stops {s : Scope σ} {agreementId : String} {gathered : AgreementOutcome}
    {q : Subscription × String} :
    (addPass c p s agreementId gathered q.1 q.2).Stops w o w' ↔ PassRunsOut p s q w o w' := by
  rw [← processAccount_stops]
  refine Run.stops_bind_iff fun r _ _ _ => ?_
  match r with
  | .ok _ => exact Run.stops_pure
  | .error _ => exact Run.stops_tell_then

/-- An agreement runs out of decimals: in the totals of its invoices, or, once its paying account is
admitted, in the first of its passes that does. -/
inductive AgreementRunsOut (c : Collaborators σ) (p : Plan) (currency : String) (a : Agreement)
    (w : World σ) : Overflow → World σ → Prop
  | invoices {mpaId : String} {provider : ReportProvider σ} {marketplace : Report}
    {summaries : List InvoiceSummary} {connected reported ready : σ} : a.mpaId? = some mpaId →
    c.connect mpaId w.state = (.ok provider, connected) →
    provider.costAndUsage (.marketplaceUsage p.period) connected = (.ok marketplace, reported) →
    provider.invoiceSummaries mpaId p.period reported = (.ok summaries, ready) →
    OrganizationInvoices.RunOut summaries currency →
    AgreementRunsOut c p currency a w .addition ⟨ready, w.calls ++ introduction p mpaId⟩
  | pass {mpaId : String} {s : Scope σ} {ready : σ} {before after : List (Subscription × String)}
    {q : Subscription × String} {gathered : AgreementOutcome} {w₁ w' : World σ} {o : Overflow} :
    a.mpaId? = some mpaId → Admits c p currency a mpaId w.state s ready →
    passes a mpaId = before ++ q :: after →
    Run.Ends (before.foldlM (fun gathered q => addPass c p s a.id gathered q.1 q.2) {})
      ⟨ready, w.calls ++ introduction p mpaId⟩ gathered w₁ →
    PassRunsOut p s q w₁ o w' → AgreementRunsOut c p currency a w o w'

/-- The passes stop at the first one that runs out of decimals. -/
theorem foldlM_addPass_stops {s : Scope σ} {agreementId : String} {qs : List (Subscription × String)}
    {gathered : AgreementOutcome} :
    Run.Stops (qs.foldlM (fun gathered q => addPass c p s agreementId gathered q.1 q.2) gathered) w o w' ↔
      ∃ before q after gathered' w₁, qs = before ++ q :: after ∧
        Run.Ends (before.foldlM (fun gathered q => addPass c p s agreementId gathered q.1 q.2) gathered) w
          gathered' w₁ ∧ PassRunsOut p s q w₁ o w' := by
  have hstops : Run.Stops (qs.foldlM (fun gathered q => addPass c p s agreementId gathered q.1 q.2) gathered)
      w o w' ↔ _ := (Run.endsOrStops σ).stops_foldlM
  simpa only [Run.endsOrStops, addPass_stops] using hstops

theorem reconcileAgreement_stops {currency : String} {a : Agreement} :
    (reconcileAgreement c p currency a).Stops w o w' ↔ AgreementRunsOut c p currency a w o w' := by
  unfold reconcileAgreement
  match hmpa : a.mpaId? with
  | none =>
    -- without a paying account it fails before anything is computed
    refine iff_of_false (fun h => ?_) fun h => ?_
    · rcases Task.stops_bind.mp h with h | ⟨_, _, h, -⟩
      · exact Task.stops_throw h
      · cases (Task.ends_throw.mp h).1
    · cases h with
      | invoices hmpa' => cases hmpa.symm.trans hmpa'
      | pass hmpa' => cases hmpa.symm.trans hmpa'
  | some mpaId =>
    simp only [pure_bind, Task.stops_provide_bind, Task.stops_compute_bind, OrganizationInvoices.build_runsOut,
      Billing.runsOut_ofExcept, Billing.returns_ofExcept, false_and, false_or, Task.stops_liftM_bind,
      Task.stops_pure, and_false, exists_false, or_false, foldlM_addPass_stops, List.append_assoc]
    constructor
    · rintro ⟨provider, connected, hconnect, marketplace, reported, hreport, summaries, ready, hsummaries, h⟩
      rcases h with ⟨⟨rfl, hout⟩, rfl⟩ |
        ⟨invoices, hinvoices, ⟨⟩, hcurrency, before, q, after, gathered, w₁, hpasses, hbefore, hout⟩
      · exact .invoices hmpa hconnect hreport hsummaries hout
      · exact .pass hmpa ⟨⟨connected, reported, summaries, hconnect, hreport, hsummaries, hinvoices⟩,
          hcurrency, rfl⟩ hpasses hbefore hout
    · intro h
      cases h with
      | invoices hmpa' hconnect hreport hsummaries hout =>
        cases hmpa.symm.trans hmpa'
        exact ⟨_, _, hconnect, _, _, hreport, _, _, hsummaries, .inl ⟨⟨rfl, hout⟩, rfl⟩⟩
      | @pass _ s _ _ _ _ _ _ _ _ hmpa' hadmits hpasses hbefore hout =>
        cases hmpa.symm.trans hmpa'
        obtain ⟨hanswers, hcurrency, hdetails⟩ := hadmits
        obtain ⟨connected, reported, summaries, hconnect, hreport, hsummaries, hinvoices⟩ := hanswers
        obtain ⟨provider, marketplace, invoices, details⟩ := s
        obtain rfl := hdetails
        exact ⟨_, _, hconnect, _, _, hreport, _, _, hsummaries,
          .inr ⟨_, hinvoices, ⟨⟩, hcurrency, _, _, _, _, _, hpasses, hbefore, hout⟩⟩

theorem addAgreement_stops {context : AuthorizationContext} {a : Agreement} :
    (addAgreement c p context a).Stops w o w' ↔
      AgreementRunsOut c p context.authorization.currency a w o w' := by
  rw [← reconcileAgreement_stops]
  refine Run.stops_bind_iff fun r _ _ _ => ?_
  match r with
  | .ok _ => exact Run.stops_pure
  | .error _ => exact Run.stops_tell_then

theorem foldlM_addAgreement_stops {context : AuthorizationContext} {agreements : List Agreement} :
    Run.Stops (agreements.foldlM (addAgreement c p) context) w o w' ↔
      ∃ before g after context' w₁, agreements = before ++ g :: after ∧
        Run.Ends (before.foldlM (addAgreement c p) context) w context' w₁ ∧
        AgreementRunsOut c p context.authorization.currency g w₁ o w' := by
  have hstops : Run.Stops (agreements.foldlM (addAgreement c p) context) w o w' ↔ _ :=
    (Run.endsOrStops σ).stops_foldlM
  simp only [Run.endsOrStops, addAgreement_stops] at hstops
  rw [hstops]
  refine exists_congr fun before => exists_congr fun g => exists_congr fun after => exists_congr fun context' =>
    exists_congr fun w₁ => and_congr_right fun _ => and_congr_right fun hbefore => ?_
  -- the agreements before it leave the authorization as it is
  obtain ⟨results, -, rfl⟩ := foldlM_addAgreement_agreementRuns hbefore
  rw [(AgreementResult.gains_foldl_addTo results context).authorization]

theorem closeUpload_not_stops {context : AuthorizationContext} {failedLinesId : Option String} :
    ¬ (closeUpload c p context failedLinesId).Stops w o w' := by
  unfold closeUpload
  simp only [Task.stops_compute_bind, Billing.runsOut_ofExcept, Task.stops_call_bind, Task.stops_liftM_bind,
    Run.stops_tell, Task.stops_pure, false_and, and_false, exists_false, or_false, not_false_eq_true]

/-- Decimals have no part in uploading. -/
theorem uploadJournal_not_stops {context : AuthorizationContext} :
    ¬ (uploadJournal c p context).Stops w o w' := by
  unfold uploadJournal
  intro h
  obtain ⟨_, _, -, h⟩ := Task.stops_call_bind.mp h
  cases hattachment : failedLinesAttachment context.journalId context.lines with
  | none =>
    rw [hattachment] at h
    rcases Task.stops_bind.mp h with h | ⟨failedLinesId, _, -, h⟩
    · exact Task.stops_pure h
    · exact closeUpload_not_stops h
  | some attachment =>
    rw [hattachment] at h
    rcases Task.stops_bind.mp h with h | ⟨failedLinesId, _, -, h⟩
    · replace h : (_ >>= fun attachmentId => pure (some attachmentId) : Task σ _).Stops _ _ _ := h
      obtain ⟨_, _, -, h⟩ := Task.stops_call_bind.mp h
      exact Task.stops_pure h
    · exact closeUpload_not_stops h

theorem findOrCreateJournal_not_stops {id : String} : ¬ (findOrCreateJournal c p id).Stops w o w' := by
  obtain ⟨r, w₁, hends, -⟩ := findOrCreateJournal_opens c p id w
  intro h
  cases hends.symm.trans h

/-- Once the journal of the authorization is found or created, going over its agreements comes to `g` in
the world `w'`. -/
inductive ComesToAgreement (c : Collaborators σ) (p : Plan) (a : Authorization) (w : World σ) (g : Agreement) :
    World σ → Prop
  | after {journalId : String} {opened : World σ} {before after : List Agreement} {listed : σ}
    {context : AuthorizationContext} {w' : World σ} :
    (findOrCreateJournal c p a.id).Ends w (.ok journalId) opened →
    c.agreements (p.agreementsQuery a.id) opened.state = (.ok (before ++ g :: after), listed) →
    Run.Ends (before.foldlM (addAgreement c p) { authorization := a, journalId })
      ⟨listed, opened.calls ++ [.agreements (p.agreementsQuery a.id)]⟩ context w' →
    ComesToAgreement c p a w g w'

theorem generateAuthorization_stops {a : Authorization} : (generateAuthorization c p a).Stops w o w' ↔
    ∃ g w₁, ComesToAgreement c p a w g w₁ ∧ AgreementRunsOut c p a.currency g w₁ o w' := by
  rw [generateAuthorization_eq, Task.stops_bind, or_iff_right findOrCreateJournal_not_stops]
  unfold billInto
  simp only [Task.stops_call_bind]
  constructor
  · rintro ⟨journalId, opened, hopens, agreements, listed, hlisted, h⟩
    by_cases hnone : agreements.isEmpty
    · rw [if_pos hnone] at h
      exact absurd h Task.stops_pure
    rw [if_neg hnone] at h
    rcases Task.stops_liftM_bind.mp h with h | ⟨context, w₁, -, h⟩
    · obtain ⟨before, g, after, context, w₁, rfl, hbefore, hout⟩ := foldlM_addAgreement_stops.mp h
      exact ⟨g, w₁, .after hopens hlisted hbefore, hout⟩
    · by_cases hlines : context.lines.isEmpty
      · rw [if_pos hlines] at h
        exact absurd h Task.stops_pure
      · rw [if_neg hlines] at h
        exact absurd h uploadJournal_not_stops
  · rintro ⟨g, w₁, hcomes, hout⟩
    obtain ⟨hopens, hlisted, hbefore⟩ := hcomes
    refine ⟨_, _, hopens, _, _, hlisted, ?_⟩
    rw [if_neg (by simp)]
    exact Task.stops_liftM_bind.mpr (.inl (foldlM_addAgreement_stops.mpr ⟨_, _, _, _, _, rfl, hbefore, hout⟩))

theorem summarize_stops {a : Authorization} : (summarize c p a).Stops w o w' ↔
    ∃ g w₁, ComesToAgreement c p a w g w₁ ∧ AgreementRunsOut c p a.currency g w₁ o w' := by
  rw [← generateAuthorization_stops, summarize_eq]
  refine Run.stops_bind_iff fun r _ _ _ => ?_
  match r with
  | .ok _ => exact Run.stops_pure
  | .error _ => exact Run.stops_tell_then

theorem findOrCreateJournal_uploadsNothing {id : String} {r : Except Failure String}
    (h : (findOrCreateJournal c p id).Ends w r w') : CallsOnly (Call.UploadsNothing p id) w w' := by
  cases journalOpens_of_ends h with
  | unanswered _ => exact ⟨_, rfl, by simp [Call.UploadsNothing]⟩
  | reused _ _ => exact ⟨_, rfl, by simp [Call.UploadsNothing]⟩
  | refused _ _ _ => exact ⟨_, rfl, by simp [Call.UploadsNothing, Plan.newJournal]⟩
  | created _ _ _ => exact ⟨_, rfl, by simp [Call.UploadsNothing, Plan.newJournal]⟩

/-- Until an agreement runs out of decimals nothing is uploaded for its authorization. -/
theorem agreementRunsOut_uploadsNothing {a : Authorization} {g : Agreement} {w₁ : World σ}
    (hcomes : ComesToAgreement c p a w g w₁) (hout : AgreementRunsOut c p a.currency g w₁ o w') :
    CallsOnly (Call.UploadsNothing p a.id) w w' := by
  have hcalls := callsLead_uploadsNothing c p a.id
  cases hcomes with
  | @after journalId opened before _ listed context _ hopens _ hbefore =>
    have hlisted : CallsOnly (Call.UploadsNothing p a.id) opened
        ⟨listed, opened.calls ++ [.agreements (p.agreementsQuery a.id)]⟩ :=
      ⟨[.agreements (p.agreementsQuery a.id)], rfl, List.forall_mem_singleton.mpr trivial⟩
    have hreached := hbefore.leads (.foldlM (addAgreement_leads hcalls) _ _)
    have hgone := reconcileAgreement_leads hcalls (p := p) a.currency g w₁
    rw [show Run.result _ w₁ = _ from reconcileAgreement_stops.mpr hout] at hgone
    exact trans_of _ (findOrCreateJournal_uploadsNothing hopens)
      (trans_of _ hlisted (trans_of _ hreached hgone))

theorem generate_stops : (generate c p).Stops w o w' ↔
    ∃ a w₁ g w₂, ComesToTurn c p w a w₁ ∧ ComesToAgreement c p a w₁ g w₂ ∧
      AgreementRunsOut c p a.currency g w₂ o w' := by
  have hmapM : ∀ (as : List Authorization) (w : World σ), Run.Stops (as.mapM (summarize c p)) w o w' ↔ _ :=
    fun _ _ => (Run.endsOrStops σ).stops_mapM
  simp only [Run.endsOrStops, Run.ends_mapM, summarize_stops] at hmapM
  unfold generate
  simp only [Task.stops_call_bind, Task.stops_liftM_bind, Task.stops_pure, and_false, exists_false, or_false,
    hmapM]
  constructor
  · rintro ⟨listed, s, hlisted, before, a, after, summaries, w₁, has, hbefore, g, w₂, hcomes, hout⟩
    have hturn : ComesToTurn c p w a w₁ := by
      refine ⟨listed, before, after, summaries, congrArg Prod.fst hlisted, has, ?_⟩
      rw [afterListing, hlisted]
      exact hbefore
    exact ⟨a, w₁, g, w₂, hturn, hcomes, hout⟩
  · rintro ⟨a, w₁, g, w₂, ⟨_, before, after, summaries, hlisted, has, hturns⟩, hcomes, hout⟩
    exact ⟨_, _, Prod.ext hlisted rfl, before, a, after, summaries, w₁, has, hturns, g, w₂, hcomes, hout⟩

/-- A run that decimals do not cut short is one that comes to no agreement that runs out of them. -/
theorem generate_overflows_iff : Run.Overflows (ExceptT.run (generate c p)) w ↔
    ∃ a w₁ g w₂ o w', ComesToTurn c p w a w₁ ∧ ComesToAgreement c p a w₁ g w₂ ∧
      AgreementRunsOut c p a.currency g w₂ o w' := by
  rw [Run.overflows_iff]
  constructor
  · rintro ⟨o, w', hstops⟩
    obtain ⟨a, w₁, g, w₂, hout⟩ := generate_stops.mp hstops
    exact ⟨a, w₁, g, w₂, o, w', hout⟩
  · rintro ⟨a, w₁, g, w₂, o, w', hout⟩
    exact ⟨o, w', generate_stops.mpr ⟨a, w₁, g, w₂, hout⟩⟩

/-- A run is cut short exactly when it comes to an authorization, and for it to an agreement, that runs
out of decimals. The world is left as it was there: of what it came to last nothing is told, for this
authorization nothing is uploaded, and for those listed behind it no journal is asked for. -/
theorem generate_stops_iff : (generate c p).Stops w o w' ↔
    ∃ a w₁ g w₂, ComesToTurn c p w a w₁ ∧ ComesToAgreement c p a w₁ g w₂ ∧
      AgreementRunsOut c p a.currency g w₂ o w' ∧ CallsOnly (Call.UploadsNothing p a.id) w₁ w' := by
  rw [generate_stops]
  refine exists_congr fun a => exists_congr fun w₁ => exists_congr fun g => exists_congr fun w₂ =>
    and_congr_right fun _ => and_congr_right fun hcomes => ?_
  exact (and_iff_left_of_imp (agreementRunsOut_uploadsNothing hcomes)).symm

end Generator

/-- Costs of one service, and what the provider gave off them. -/
def Report.discounted (usage discount : String) : Report :=
  .ofGroups [.unblended "Usage" "Amazon EC2" usage,
    .unblended "Solution Provider Program Discount" "Amazon EC2" discount]

/-- Systems with two authorizations in dollars, of one agreement each. Under the paying account of the
first one a service costs next to nothing, and was discounted by more. -/
def Collaborators.tinyUsage : Collaborators Unit :=
  { Collaborators.answering .empty with
    authorizations := fun _ s => (.ok (some [.inDollars "AUT-1", .inDollars "AUT-2"]), s)
    agreements := fun query s =>
      let mpaId := if query = Plan.standard.agreementsQuery "AUT-1" then "123456789012" else "223456789012"
      (.ok [.ofSubscriptions mpaId [(.active, "210987654321", ["AWS Usage"])]], s)
    connect := fun mpaId s =>
      let costs := if mpaId = "123456789012" then
        Report.discounted "0.0000000000000000000000000001" "-1000" else .discounted "100" "-7"
      (.ok ⟨fun _ s => (.ok costs, s), fun _ _ s => (.ok [], s)⟩, s) }

namespace Generator

/-- The discount of the first authorization has no percentage. The run is cut short without any notice and
before it comes to the second authorization, whose journal it would upload. -/
theorem generate_stops_tinyUsage :
    ∃ w', (generate .tinyUsage .standard).Stops ⟨(), []⟩ .division w' ∧
      w'.calls.filterMap Call.notice? = [] ∧
      .journals (Plan.standard.journalsQuery "AUT-2") ∉ w'.calls ∧
      ∃ u, (generate (Collaborators.tinyUsage.listing [.inDollars "AUT-2"]) .standard).Ends ⟨(), []⟩
        (.ok ⟨Plan.standard.period, [⟨"AUT-2", .uploaded "BJO-1" 2 0⟩]⟩) u := by
  have hstops : ((ExceptT.run (generate .tinyUsage .standard)).result ⟨(), []⟩).1 = .error .division := by
    decide +kernel
  have hsilent : ((ExceptT.run (generate .tinyUsage .standard)).result ⟨(), []⟩).2.calls.filterMap
      Call.notice? = [] := by
    decide +kernel
  have hsecond : .journals (Plan.standard.journalsQuery "AUT-2") ∉
      ((ExceptT.run (generate .tinyUsage .standard)).result ⟨(), []⟩).2.calls := by
    decide +kernel
  have halone : (Run.value? (ExceptT.run (generate (Collaborators.tinyUsage.listing [.inDollars "AUT-2"])
      .standard)) ⟨(), []⟩).map (·.1) =
        some (.ok ⟨Plan.standard.period, [⟨"AUT-2", .uploaded "BJO-1" 2 0⟩]⟩) := by
    decide +kernel
  obtain ⟨⟨_, u⟩, hends, rfl⟩ := Option.map_eq_some_iff.mp halone
  generalize hresult : (ExceptT.run (generate .tinyUsage .standard)).result ⟨(), []⟩ = result
    at hstops hsilent hsecond
  obtain ⟨_, w'⟩ := result
  obtain rfl := hstops
  exact ⟨w', hresult, hsilent, hsecond, u, Run.value?_eq_some.mp hends⟩

end Generator

end CostJournal
