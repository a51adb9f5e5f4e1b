import CostJournal.Proofs.Agreement.Passes

/-!
# Agreements before their passes

An agreement is refused for one of six reasons, or its paying account is admitted and it makes its
passes (`reconcileAgreement_cases`): once they begin nothing can fail it. The two exclude each other
(`Admits.not_refuses`), so that an agreement whose paying account is admitted comes down to its passes
(`reconcileAgreement_ends`).
-/

namespace CostJournal

namespace Generator
variable {σ : Type} {c : Collaborators σ} {p : Plan} {s : Scope σ} {w w' : World σ}

/-- The provider of the paying account answers, and the invoices are in the currency; the passes share
`s` and start from the state `ready`. -/
structure Admits (c : Collaborators σ) (p : Plan) (currency : String) (a : Agreement) (mpaId : String)
    (start : σ) (s : Scope σ) (ready : σ) : Prop where
  answers : ∃ connected reported summaries,
    c.connect mpaId start = (.ok s.provider, connected) ∧
    s.provider.costAndUsage (.marketplaceUsage p.period) connected = (.ok s.marketplace, reported) ∧
    s.provider.invoiceSummaries mpaId p.period reported = (.ok summaries, ready) ∧
    (OrganizationInvoices.build summaries currency).Returns s.invoices
  currency : s.invoices.checkPaymentCurrency currency = .ok ()
  details : s.details = p.details a.id mpaId

/-- Why an agreement that starts in the state `start` fails before any of its passes is made. -/
inductive Refuses (c : Collaborators σ) (p : Plan) (currency : String) (a : Agreement) (start : σ) :
    Failure → Prop
  | noPayingAccount : a.mpaId? = none → Refuses c p currency a start (.missingMpaAccount a.id)
  | connect {mpaId : String} {e : ProviderFailure} {failed : σ} : a.mpaId? = some mpaId →
    c.connect mpaId start = (.error e, failed) → Refuses c p currency a start e.toFailure
  | marketplace {mpaId : String} {provider : ReportProvider σ} {e : ProviderFailure}
    {connected failed : σ} : a.mpaId? = some mpaId →
    c.connect mpaId start = (.ok provider, connected) →
    provider.costAndUsage (.marketplaceUsage p.period) connected = (.error e, failed) →
    Refuses c p currency a start e.toFailure
  | invoiceSummaries {mpaId : String} {provider : ReportProvider σ} {marketplace : Report}
    {e : ProviderFailure} {connected reported failed : σ} : a.mpaId? = some mpaId →
    c.connect mpaId start = (.ok provider, connected) →
    provider.costAndUsage (.marketplaceUsage p.period) connected = (.ok marketplace, reported) →
    provider.invoiceSummaries mpaId p.period reported = (.error e, failed) →
    Refuses c p currency a start e.toFailure
  | invoices {mpaId : String} {provider : ReportProvider σ} {marketplace : Report}
    {summaries : List InvoiceSummary} {e : Failure} {connected reported ready : σ} :
    a.mpaId? = some mpaId → c.connect mpaId start = (.ok provider, connected) →
    provider.costAndUsage (.marketplaceUsage p.period) connected = (.ok marketplace, reported) →
    provider.invoiceSummaries mpaId p.period reported = (.ok summaries, ready) →
    (OrganizationInvoices.build summaries currency).Fails e → Refuses c p currency a start e
  | currency {mpaId : String} {provider : ReportProvider σ} {marketplace : Report}
    {summaries : List InvoiceSummary} {invoices : OrganizationInvoices} {e : Failure}
    {connected reported ready : σ} : a.mpaId? = some mpaId →
    c.connect mpaId start = (.ok provider, connected) →
    provider.costAndUsage (.marketplaceUsage p.period) connected = (.ok marketplace, reported) →
    provider.invoiceSummaries mpaId p.period reported = (.ok summaries, ready) →
    (OrganizationInvoices.build summaries currency).Returns invoices →
    invoices.checkPaymentCurrency currency = .error e → Refuses c p currency a start e

/-- What is asked for before the passes of an agreement. -/
def introduction (p : Plan) (mpaId : String) : List Call :=
  [.connect mpaId, .costAndUsage (.marketplaceUsage p.period), .invoiceSummaries mpaId p.period]

/-- What an agreement adds: what its passes gathered, and the reports of its paying account. -/
def Scope.close (s : Scope σ) (mpaId : String) (o : AgreementOutcome) : AgreementOutcome :=
  { o with reports := { o.reports with
    marketplaceUsage := o.reports.marketplaceUsage.insert mpaId s.marketplace
    organizationInvoices := o.reports.organizationInvoices.insert mpaId s.invoices } }

/-- An agreement is refused and tells nothing, or it makes its passes and ends well. -/
theorem reconcileAgreement_cases {currency : String} {a : Agreement} {r : Except Failure AgreementOutcome}
    (h : (reconcileAgreement c p currency a).Ends w r w') :
    (∃ e, r = .error e ∧ Refuses c p currency a w.state e ∧ NoticesSent w w' []) ∨
      ∃ mpaId, ∃ s : Scope σ, ∃ w₁ o, a.mpaId? = some mpaId ∧
        Admits c p currency a mpaId w.state s w₁.state ∧
        w₁.calls = w.calls ++ introduction p mpaId ∧
        Run.Ends ((passes a mpaId).foldlM (fun o q => addPass c p s a.id o q.1 q.2) {}) w₁ o w' ∧
        r = .ok (s.close mpaId o) := by
  unfold reconcileAgreement at h
  match hmpa : a.mpaId? with
  | none =>
    rw [hmpa] at h
    rcases Task.ends_bind.mp h with ⟨e, hthrow, rfl⟩ | ⟨_, _, hthrow, -⟩
    · obtain ⟨he, rfl⟩ := Task.ends_throw.mp hthrow
      cases he
      exact .inl ⟨_, rfl, .noPayingAccount hmpa, .refl _⟩
    · cases (Task.ends_throw.mp hthrow).1
  | some mpaId =>
    rw [hmpa] at h
    replace h := (Task.ends_bind_of_ends (Task.ends_pure.mpr ⟨rfl, rfl⟩)).mp h
    rcases Task.ends_provide_bind.mp h with
      ⟨e, failed, hconnect, rfl, rfl⟩ | ⟨provider, connected, hconnect, h⟩
    · exact .inl ⟨_, rfl, .connect hmpa hconnect, _, rfl, rfl⟩
    rcases Task.ends_provide_bind.mp h with
      ⟨e, failed, hreport, rfl, rfl⟩ | ⟨marketplace, reported, hreport, h⟩
    · exact .inl ⟨_, rfl, .marketplace hmpa hconnect hreport,
        [.connect mpaId, .costAndUsage (.marketplaceUsage p.period)], List.append_assoc .., rfl⟩
    rcases Task.ends_provide_bind.mp h with
      ⟨e, failed, hsummaries, rfl, rfl⟩ | ⟨summaries, ready, hsummaries, h⟩
    · exact .inl ⟨_, rfl, .invoiceSummaries hmpa hconnect hreport hsummaries,
        [.connect mpaId, .costAndUsage (.marketplaceUsage p.period), .invoiceSummaries mpaId p.period],
        (List.append_assoc ..).trans (List.append_assoc ..), rfl⟩
    set w₁ : World σ := ⟨ready, w.calls ++ [.connect mpaId] ++ [.costAndUsage (.marketplaceUsage p.period)] ++
      [.invoiceSummaries mpaId p.period]⟩
    have hcalls : w₁.calls = w.calls ++ introduction p mpaId :=
      (List.append_assoc ..).trans (List.append_assoc ..)
    rcases Task.ends_compute_bind.mp h with ⟨e, hfails, rfl, rfl⟩ | ⟨invoices, hinvoices, h⟩
    · exact .inl ⟨e, rfl, .invoices hmpa hconnect hreport hsummaries hfails, _, hcalls, rfl⟩
    rcases Task.ends_compute_bind.mp h with ⟨e, hfails, rfl, rfl⟩ | ⟨_, hcurrency, h⟩
    · exact .inl ⟨e, rfl, .currency hmpa hconnect hreport hsummaries hinvoices
        (Billing.run_ofExcept.mp hfails), _, hcalls, rfl⟩
    -- a pass that fails is told and no failure of the agreement
    obtain ⟨o, w₂, hpasses, h⟩ := Task.ends_liftM_bind.mp h
    obtain ⟨hr, rfl⟩ := Task.ends_pure.mp h
    have hadmits : Admits c p currency a mpaId w.state
        ⟨provider, marketplace, invoices, p.details a.id mpaId⟩ w₁.state :=
      ⟨⟨connected, reported, summaries, hconnect, hreport, hsummaries, hinvoices⟩,
        Billing.run_ofExcept.mp hcurrency, rfl⟩
    exact .inr ⟨mpaId, _, w₁, o, rfl, hadmits, hcalls, hpasses, hr⟩

/-- An agreement that ends well has admitted its paying account. -/
theorem admits_of_ends {currency : String} {a : Agreement} {o : AgreementOutcome}
    (h : (reconcileAgreement c p currency a).Ends w (.ok o) w') :
    ∃ mpaId s ready, a.mpaId? = some mpaId ∧ Admits c p currency a mpaId w.state s ready := by
  rcases reconcileAgreement_cases h with ⟨_, he, -⟩ | ⟨mpaId, s, w₁, _, hmpa, hadmits, -⟩
  · cases he
  · exact ⟨mpaId, s, w₁.state, hmpa, hadmits⟩

/-- The passes of an agreement share one scope. -/
theorem Admits.unique {currency mpaId : String} {a : Agreement} {s s' : Scope σ} {start ready ready' : σ}
    (h : Admits c p currency a mpaId start s ready) (h' : Admits c p currency a mpaId start s' ready') :
    s = s' := by
  obtain ⟨⟨_, _, _, hconnect, hreport, hsummaries, hinvoices⟩, -, hdetails⟩ := h
  obtain ⟨⟨_, _, _, hconnect', hreport', hsummaries', hinvoices'⟩, -, hdetails'⟩ := h'
  obtain ⟨provider, marketplace, invoices, details⟩ := s
  obtain ⟨provider', marketplace', invoices', details'⟩ := s'
  cases hconnect.symm.trans hconnect'
  cases hreport.symm.trans hreport'
  cases hsummaries.symm.trans hsummaries'
  cases hinvoices.symm.trans hinvoices'
  cases hdetails.trans hdetails'.symm
  rfl

/-- An agreement whose paying account is admitted is not refused. -/
theorem Admits.not_refuses {currency mpaId : String} {a : Agreement} {start ready : σ} {e : Failure}
    (hmpa : a.mpaId? = some mpaId) (h : Admits c p currency a mpaId start s ready) :
    ¬ Refuses c p currency a start e := by
  obtain ⟨⟨_, _, _, hconnect, hreport, hsummaries, hinvoices⟩, hcurrency, -⟩ := h
  intro hrefuses
  cases hrefuses with
  | noPayingAccount hmpa' => cases hmpa.symm.trans hmpa'
  | connect hmpa' hconnect' =>
    cases hmpa.symm.trans hmpa'
    cases hconnect.symm.trans hconnect'
  | marketplace hmpa' hconnect' hreport' =>
    cases hmpa.symm.trans hmpa'
    cases hconnect.symm.trans hconnect'
    cases hreport.symm.trans hreport'
  | invoiceSummaries hmpa' hconnect' hreport' hsummaries' =>
    cases hmpa.symm.trans hmpa'
    cases hconnect.symm.trans hconnect'
    cases hreport.symm.trans hreport'
    cases hsummaries.symm.trans hsummaries'
  | invoices hmpa' hconnect' hreport' hsummaries' hfails =>
    cases hmpa.symm.trans hmpa'
    cases hconnect.symm.trans hconnect'
    cases hreport.symm.trans hreport'
    cases hsummaries.symm.trans hsummaries'
    cases hinvoices.symm.trans hfails
  | currency hmpa' hconnect' hreport' hsummaries' hinvoices' hfails =>
    cases hmpa.symm.trans hmpa'
    cases hconnect.symm.trans hconnect'
    cases hreport.symm.trans hreport'
    cases hsummaries.symm.trans hsummaries'
    cases hinvoices.symm.trans hinvoices'
    cases hcurrency.symm.trans hfails

/-- An agreement whose paying account is admitted ends well once its passes are made. -/
theorem reconcileAgreement_ends {currency mpaId : String} {a : Agreement} {ready : σ}
    {r : Except Failure AgreementOutcome} (hmpa : a.mpaId? = some mpaId)
    (hadmits : Admits c p currency a mpaId w.state s ready)
    (h : (reconcileAgreement c p currency a).Ends w r w') :
    ∃ o made, r = .ok o ∧ Made p s (passes a mpaId) made ∧ o.lines = made.flatMap (·.2.lines) ∧
      CostsAsked p.period ((passes a mpaId).map (·.2)) w w' := by
  rcases reconcileAgreement_cases h with
    ⟨_, -, hrefuses, -⟩ | ⟨mpaId', s', w₁, o, hmpa', hadmits', hcalls, hpasses, rfl⟩
  · exact absurd hrefuses (hadmits.not_refuses hmpa)
  · cases hmpa.symm.trans hmpa'
    cases hadmits.unique hadmits'
    obtain ⟨hasked, made, hmade, hlines⟩ := foldlM_addPass_ends hpasses
    -- what is asked for before the passes is no cost by record type
    have hbefore : CostsAsked p.period [] w w₁ :=
      ⟨_, hcalls, by simp [introduction, (CostQuery.marketplaceUsage_ne_recordTypes p.period _).symm]⟩
    exact ⟨_, made, rfl, hmade, hlines, hbefore.append hasked⟩

end Generator

/-- Systems that answer every query for costs with one report and list no invoices. -/
def Collaborators.answering (r : Report) : Collaborators Unit where
  authorizations _ s := (.ok none, s)
  agreements _ s := (.ok [], s)
  journals _ s := (.ok [], s)
  createJournal n s := (.ok ⟨"BJO-1", some n.name, .draft, n.externalIds⟩, s)
  upload _ _ _ s := (.ok (), s)
  attach _ _ s := (.ok "JOA-1", s)
  connect _ s := (.ok ⟨fun _ s => (.ok r, s), fun _ _ s => (.ok [], s)⟩, s)
  notify _ s := (.ok (), s)

/-- A plan for one month with the catalog's processors. -/
def Plan.standard : Plan where
  period := ⟨2025, 5, by decide, by decide⟩
  productIds := ["PRD-1"]
  table := Processor.table {}
  segment := "COM"
  portal := ⟨"https://portal"⟩

/-- An authorization that is billed in dollars. -/
def Authorization.inDollars (id : String) : Authorization := ⟨id, none, "USD", {}, none⟩

/-- An agreement with a paying account and subscriptions, each with a status, an account and SKUs. -/
def Agreement.ofSubscriptions (mpaId : String)
    (subscriptions : List (SubscriptionStatus × String × List String)) : Agreement where
  id := "AGR-1"
  status := some "Active"
  externalIds := ⟨some mpaId⟩
  subscriptions := subscriptions.map fun s =>
    ⟨"SUB-" ++ s.2.1, s.1, ⟨some s.2.1⟩, s.2.2.map fun sku => ⟨sku, sku, ⟨some sku⟩⟩⟩
  parameters := {}

namespace Generator

/-- What the passes of an agreement share when every query is answered by `r`. -/
def Scope.answering (r : Report) (a : Agreement) (mpaId : String) : Scope Unit where
  provider := ⟨fun _ s => (.ok r, s), fun _ _ s => (.ok [], s)⟩
  marketplace := r
  invoices := {}
  details := Plan.standard.details a.id mpaId

theorem admits_answering (r : Report) (a : Agreement) (currency mpaId : String) :
    Admits (.answering r) .standard currency a mpaId () (.answering r a mpaId) () :=
  ⟨⟨(), (), [], rfl, rfl, rfl, rfl⟩, rfl, rfl⟩

end Generator

end CostJournal
