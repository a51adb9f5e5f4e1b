import CostJournal.Proofs.Account.Pass
import CostJournal.Proofs.Agreement.Admission
import CostJournal.Proofs.Agreement.Reported
import CostJournal.Proofs.Agreement.Selection

/-!
# Agreements and passes that fail

A pass leaves its lines and the two reports of its account, or one notice (`PassRuns`); an agreement leaves
what the passes that are due for it leave, with the reports of its paying account, or one notice
(`AgreementRuns`). `agreements_allOrNothing` says what an authorization has after all of its agreements,
whatever fails among them.
-/

namespace CostJournal

/-- What came of a pass. -/
inductive PassResult where
  | returned (pass : ReportedPass)
  | failed (notice : Notice)

namespace PassResult

def pass? : PassResult → Option ReportedPass
  | returned pass => some pass
  | failed _ => none

def notices : PassResult → List Notice
  | returned _ => []
  | failed notice => [notice]

end PassResult

/-- What came of an agreement: the reports of its paying account and what came of each of its passes, or that it
was refused. -/
inductive AgreementResult where
  | reconciled (mpaId : String) (marketplace : Report) (invoices : OrganizationInvoices)
    (passes : List PassResult)
  | refused (notice : Notice)

namespace AgreementResult

/-- The agreement with the passes that returned. -/
def reported? : AgreementResult → Option ReportedAgreement
  | reconciled mpaId marketplace invoices passes =>
    some ⟨mpaId, marketplace, invoices, passes.filterMap (·.pass?)⟩
  | refused _ => none

def notices : AgreementResult → List Notice
  | reconciled _ _ _ passes => passes.flatMap (·.notices)
  | refused notice => [notice]

/-- What the agreement adds, all or nothing. -/
def addTo (context : AuthorizationContext) (r : AgreementResult) : AuthorizationContext :=
  r.reported?.elim context fun g => context.absorb g.outcome

theorem foldl_addTo (results : List AgreementResult) (context : AuthorizationContext) :
    results.foldl addTo context =
      (results.filterMap (·.reported?)).foldl (fun context g => context.absorb g.outcome) context := by
  induction results generalizing context with
  | nil => rfl
  | cons r results ih =>
    rw [List.foldl_cons, ih]
    cases r <;> rfl

theorem gains_foldl_addTo (results : List AgreementResult) (context : AuthorizationContext) :
    context.Gains (results.filterMap (·.reported?)) (results.foldl addTo context) := by
  rw [foldl_addTo]
  exact .foldl_absorb context _

end AgreementResult

namespace Generator
variable {σ : Type} {c : Collaborators σ} {p : Plan} {s : Scope σ} {q : Subscription × String}
  {w w' : World σ}

/-- What the operators are told of an agreement that fails. -/
def agreementNotice (a : Agreement) (e : Failure) : Notice where
  kind := .error
  title := "Billing journal failed for agreement " ++ a.id
  text := e.message

/-- The provider answers for the account of `q`, and the lines are those of the items in their order and then
those of the services that no item names. -/
inductive PassReturns (p : Plan) (s : Scope σ) (q : Subscription × String) (start : σ) :
    ReportedPass → σ → Prop
  | reported {costs entities : Report} {answered ready : σ} {m : AccountMetrics} {observed : SortedMap Decimal}
    {billed : List (List JournalLine)} {unmatched : List JournalLine} :
    s.provider.costAndUsage (.recordTypes p.period q.2) start = (.ok costs, answered) →
    s.provider.costAndUsage (.invoiceEntities p.period q.2) answered = (.ok entities, ready) →
    (s.pass q costs entities).Bills p.table m observed billed unmatched →
    PassReturns p s q start ⟨q.2, billed.flatten ++ unmatched, costs, entities⟩ ready

/-- What a pass that returns has asked for. -/
def questions (p : Plan) (accountId : String) : List Call :=
  [.costAndUsage (.recordTypes p.period accountId), .costAndUsage (.invoiceEntities p.period accountId)]

/-- Why a pass fails that starts in the state `start`, what it has asked for by then, and the state in which it
fails. -/
inductive PassFails (p : Plan) (s : Scope σ) (q : Subscription × String) (start : σ) :
    Failure → List Call → σ → Prop
  | costs {e : ProviderFailure} {failed : σ} :
    s.provider.costAndUsage (.recordTypes p.period q.2) start = (.error e, failed) →
    PassFails p s q start e.toFailure [.costAndUsage (.recordTypes p.period q.2)] failed
  | entities {costs : Report} {e : ProviderFailure} {answered failed : σ} :
    s.provider.costAndUsage (.recordTypes p.period q.2) start = (.ok costs, answered) →
    s.provider.costAndUsage (.invoiceEntities p.period q.2) answered = (.error e, failed) →
    PassFails p s q start e.toFailure (questions p q.2) failed
  | metrics {costs entities : Report} {e : Failure} {answered ready : σ} :
    s.provider.costAndUsage (.recordTypes p.period q.2) start = (.ok costs, answered) →
    s.provider.costAndUsage (.invoiceEntities p.period q.2) answered = (.ok entities, ready) →
    AccountMetrics.build q.2 s.marketplace costs entities = .error e →
    PassFails p s q start e (questions p q.2) ready
  | services {costs entities : Report} {m : AccountMetrics} {e : Failure} {answered ready : σ} :
    s.provider.costAndUsage (.recordTypes p.period q.2) start = (.ok costs, answered) →
    s.provider.costAndUsage (.invoiceEntities p.period q.2) answered = (.ok entities, ready) →
    AccountMetrics.build q.2 s.marketplace costs entities = .ok m → costs.observedCosts.Fails e →
    PassFails p s q start e (questions p q.2) ready

/-- One pass of an agreement: it returns its lines and reports and tells nothing, or its failure is told and
nothing else comes of it. -/
inductive PassRuns (c : Collaborators σ) (p : Plan) (s : Scope σ) (agreementId : String)
    (q : Subscription × String) (w : World σ) : PassResult → World σ → Prop
  | returned {pass : ReportedPass} {ready : σ} : PassReturns p s q w.state pass ready →
    PassRuns c p s agreementId q w (.returned pass) ⟨ready, w.calls ++ questions p q.2⟩
  | failed {e : Failure} {calls : List Call} {failed : σ} {n : Notice} : PassFails p s q w.state e calls failed →
    n = passNotice agreementId q.1 e →
    PassRuns c p s agreementId q w (.failed n) ⟨(c.notify n failed).2, w.calls ++ calls ++ [.notify n]⟩

theorem PassFails.silent {e : Failure} {calls : List Call} {start failed : σ}
    (h : PassFails p s q start e calls failed) : calls.filterMap Call.notice? = [] := by
  cases h <;> rfl

theorem PassRuns.noticesSent {agreementId : String} {r : PassResult}
    (h : PassRuns c p s agreementId q w r w') : NoticesSent w w' r.notices := by
  cases h with
  | returned _ => exact ⟨_, rfl, rfl⟩
  | @failed _ _ _ n hfails _ =>
    refine ⟨_, List.append_assoc .., ?_⟩
    rw [List.filterMap_append, hfails.silent]
    rfl

/-- Processing an account comes to a pass, or to one of its failures. -/
theorem processAccount_cases {r : Except Failure AccountOutcome}
    (h : (processAccount p s q.2 q.1.lines).Ends w r w') :
    (∃ pass, r = .ok pass.outcome ∧ pass.accountId = q.2 ∧ PassReturns p s q w.state pass w'.state ∧
      w'.calls = w.calls ++ questions p q.2) ∨
    ∃ e calls, r = .error e ∧ PassFails p s q w.state e calls w'.state ∧ w'.calls = w.calls ++ calls := by
  rcases Task.ends_provide_bind.mp h with ⟨e, failed, hcosts, rfl, rfl⟩ | ⟨costs, answered, hcosts, h⟩
  · exact .inr ⟨_, _, rfl, .costs hcosts, rfl⟩
  rcases Task.ends_provide_bind.mp h with ⟨e, failed, hentities, rfl, rfl⟩ | ⟨entities, ready, hentities, h⟩
  · exact .inr ⟨_, _, rfl, .entities hcosts hentities, List.append_assoc ..⟩
  obtain ⟨hrun, rfl⟩ := Task.ends_compute.mp h
  match r with
  | .ok o =>
    obtain ⟨lines, hlines, ho⟩ := Billing.returns_bind.mp (show Billing.Returns _ o from hrun)
    obtain ⟨m, observed, billed, unmatched, hbills, rfl⟩ := AccountPass.lines_returns hlines
    cases Billing.returns_pure.mp ho
    exact .inl ⟨⟨q.2, _, costs, entities⟩, rfl, rfl, .reported hcosts hentities hbills, List.append_assoc ..⟩
  | .error e =>
    rcases Billing.fails_bind.mp (show Billing.Fails _ e from hrun) with hlines | ⟨_, -, hpure⟩
    · rcases AccountPass.lines_fails hlines with hmetrics | ⟨m, hm, hservices⟩
      · exact .inr ⟨_, _, rfl, .metrics hcosts hentities hmetrics, List.append_assoc ..⟩
      · exact .inr ⟨_, _, rfl, .services hcosts hentities hm hservices, List.append_assoc ..⟩
    · exact absurd hpure Billing.fails_pure

theorem addPass_passRuns {agreementId : String} {o o' : AgreementOutcome}
    (h : (addPass c p s agreementId o q.1 q.2).Ends w o' w') :
    ∃ r, PassRuns c p s agreementId q w r w' ∧ o' = o.addPasses r.pass?.toList := by
  obtain ⟨r, ⟨state, calls⟩, hprocess, h⟩ := Run.ends_bind.mp h
  rcases processAccount_cases hprocess with ⟨pass, rfl, haccount, hreturns, rfl⟩ | ⟨e, asked, rfl, hfails, rfl⟩
  · obtain ⟨rfl, rfl⟩ := Run.ends_pure.mp h
    refine ⟨_, .returned hreturns, ?_⟩
    rw [← haccount]
    rfl
  · obtain ⟨_, w₁, htell, h⟩ := Run.ends_bind.mp h
    obtain ⟨rfl, rfl⟩ := Run.ends_pure.mp h
    rw [Run.ends_tell.mp htell]
    exact ⟨_, .failed hfails rfl, rfl⟩

theorem foldlM_addPass_passRuns {agreementId : String} {qs : List (Subscription × String)} {o o' : AgreementOutcome}
    (h : Run.Ends (qs.foldlM (fun o q => addPass c p s agreementId o q.1 q.2) o) w o' w') :
    ∃ rs, InTurn (PassRuns c p s agreementId) qs w rs w' ∧ o' = o.addPasses (rs.filterMap (·.pass?)) := by
  have hfold : ∃ rs, InTurn (PassRuns c p s agreementId) qs w rs w' ∧
      o' = rs.foldl (fun o r => o.addPasses r.pass?.toList) o :=
    Run.inTurn_of_foldlM (fun _ => True) h trivial (fun _ _ _ => trivial)
      fun _ _ _ _ _ _ hpass => addPass_passRuns hpass
  obtain ⟨rs, hturns, rfl⟩ := hfold
  refine ⟨rs, hturns, ?_⟩
  clear h hturns
  induction rs generalizing o with
  | nil => rfl
  | cons r rs ih =>
    rw [List.foldl_cons, ih]
    cases r <;> rfl

/-- One agreement of an authorization: its paying account is admitted and the passes that are due are made one
after the other, or it is refused before them, which is told and nothing else comes of it. -/
inductive AgreementRuns (c : Collaborators σ) (p : Plan) (currency : String) (a : Agreement) (w : World σ) :
    AgreementResult → World σ → Prop
  | reconciled {mpaId : String} {s : Scope σ} {qs : List (Subscription × String)} {passes : List PassResult}
    {o : AgreementOutcome} {ready : σ} {w' : World σ} : a.mpaId? = some mpaId →
    Admits c p currency a mpaId w.state s ready → a.PassesAre mpaId qs →
    InTurn (PassRuns c p s a.id) qs ⟨ready, w.calls ++ introduction p mpaId⟩ passes w' →
    (reconcileAgreement c p currency a).Ends w (.ok o) w' →
    AgreementRuns c p currency a w (.reconciled mpaId s.marketplace s.invoices passes) w'
  | refused {e : Failure} {w₁ : World σ} {n : Notice} : Refuses c p currency a w.state e →
    (reconcileAgreement c p currency a).Ends w (.error e) w₁ → NoticesSent w w₁ [] → n = agreementNotice a e →
    AgreementRuns c p currency a w (.refused n) ⟨(c.notify n w₁.state).2, w₁.calls ++ [.notify n]⟩

theorem AgreementRuns.noticesSent {currency : String} {a : Agreement} {r : AgreementResult}
    (h : AgreementRuns c p currency a w r w') : NoticesSent w w' r.notices := by
  cases h with
  | @reconciled mpaId _ _ passes _ ready _ _ _ _ hpasses _ =>
    have hsilent : NoticesSent w ⟨ready, w.calls ++ introduction p mpaId⟩ [] := ⟨_, rfl, rfl⟩
    have hsent : NoticesSent _ w' (passes.flatMap (·.notices)) := hpasses.noticesSent PassRuns.noticesSent
    exact hsilent.append hsent
  | @refused _ _ n _ _ hsilent _ => exact hsilent.append (.of_call (.notify n) rfl)

theorem addAgreement_agreementRuns {context context' : AuthorizationContext} {a : Agreement}
    (h : (addAgreement c p context a).Ends w context' w') :
    ∃ r, AgreementRuns c p context.authorization.currency a w r w' ∧
      context' = r.addTo context := by
  obtain ⟨r, w₁, hreconcile, h⟩ := Run.ends_bind.mp h
  rcases reconcileAgreement_cases hreconcile with
    ⟨e, rfl, hrefuses, hsilent⟩ | ⟨mpaId, s, ⟨ready, calls⟩, o, hmpa, hadmits, hcalls, hpasses, rfl⟩
  · obtain ⟨_, w₂, htell, h⟩ := Run.ends_bind.mp h
    obtain ⟨rfl, rfl⟩ := Run.ends_pure.mp h
    rw [Run.ends_tell.mp htell]
    exact ⟨_, .refused hrefuses hreconcile hsilent rfl, rfl⟩
  · obtain ⟨rfl, rfl⟩ := Run.ends_pure.mp h
    cases hcalls
    obtain ⟨passes, hturns, rfl⟩ := foldlM_addPass_passRuns hpasses
    exact ⟨_, .reconciled hmpa hadmits (passesAre_iff.mpr rfl) hturns hreconcile, rfl⟩

theorem foldlM_addAgreement_agreementRuns {context context' : AuthorizationContext}
    {agreements : List Agreement}
    (h : Run.Ends (agreements.foldlM (addAgreement c p) context) w context' w') :
    ∃ results, InTurn (AgreementRuns c p context.authorization.currency) agreements w results w' ∧
      context' = results.foldl AgreementResult.addTo context :=
  Run.inTurn_of_foldlM (fun b => b.authorization = context.authorization) h rfl
    (fun b r hb => by cases r <;> exact hb) fun _ _ _ _ _ hb h => hb ▸ addAgreement_agreementRuns h

/-- Unless decimals cut it short, going over agreements ends. Each agreement is refused, which is told once and
adds nothing, or makes the passes that are due for it; each pass adds its lines and reports, or is told once and
adds nothing. What the authorization has in the end is what these agreements and passes added, in their order,
and of each report the last. -/
theorem agreements_allOrNothing {context : AuthorizationContext} {agreements : List Agreement}
    (hdecimals : ¬ Run.Overflows (agreements.foldlM (addAgreement c p) context) w) :
    ∃ results context' w', Run.Ends (agreements.foldlM (addAgreement c p) context) w context' w' ∧
      InTurn (AgreementRuns c p context.authorization.currency) agreements w results w' ∧
      context.Gains (results.filterMap (·.reported?)) context' ∧
      NoticesSent w w' (results.flatMap (·.notices)) := by
  obtain ⟨context', w', hends⟩ := Run.ends_of_not_overflows hdecimals
  obtain ⟨results, hturns, rfl⟩ := foldlM_addAgreement_agreementRuns hends
  exact ⟨results, _, w', hends, hturns, AgreementResult.gains_foldl_addTo results context,
    hturns.noticesSent AgreementRuns.noticesSent⟩

end Generator

/-- Each report is dearer than the one before. -/
def Report.dearer (n : Nat) : Report := .ofGroups [.unblended "Usage" "Amazon EC2" (natText (n + 1))]

/-- Systems that count the queries for costs and answer each with a dearer report, but for the costs of one
account. -/
def Collaborators.countingBut (accountId : String) : Collaborators Nat where
  authorizations _ s := (.ok none, s)
  agreements _ s := (.ok [], s)
  journals _ s := (.ok [], s)
  createJournal n s := (.ok ⟨"BJO-1", some n.name, .draft, n.externalIds⟩, s)
  upload _ _ _ s := (.ok (), s)
  attach _ _ s := (.ok "JOA-1", s)
  connect _ s := (.ok {
    costAndUsage := fun q s =>
      if q = .recordTypes Plan.standard.period accountId then (.error (.request "timeout"), s)
      else (.ok (.dearer s), s + 1)
    invoiceSummaries := fun _ _ s => (.ok [], s) }, s)
  notify _ s := (.ok (), s)

/-- Nothing is gathered yet for an authorization in dollars. -/
def AuthorizationContext.inDollars : AuthorizationContext where
  authorization := ⟨"AUT-1", none, "USD", {}, none⟩
  journalId := "BJO-1"

namespace Generator

/-- An agreement without a paying account, and two with the same one and a member account in common. -/
def threeAgreements : List Agreement :=
  [.ofSubscriptions "" [(.active, "210987654321", ["AWS Other services"])],
    .ofSubscriptions "123456789012"
      [(.terminated, "410987654321", ["AWS Other services"]), (.active, "210987654321", ["AWS Other services"]),
        (.active, "310987654321", ["AWS Other services"])],
    .ofSubscriptions "123456789012" [(.active, "210987654321", ["AWS Other services"])]]

/-- The run over the agreements while one of the member accounts is not reported. -/
def threeAgreementsRun : Run Nat AuthorizationContext :=
  threeAgreements.foldlM (addAgreement (.countingBut "310987654321") .standard) .inDollars

/-- The first agreement is refused, and a pass of the second fails. The member account that the others share is
billed by both, each time before the paying account, and its reports are those of the third agreement. -/
theorem agreements_allOrNothing_threeAgreements : ¬ threeAgreementsRun.Overflows ⟨0, []⟩ ∧
    ∃ results context' w', threeAgreementsRun.Ends ⟨0, []⟩ context' w' ∧
      InTurn (AgreementRuns (.countingBut "310987654321") .standard "USD") threeAgreements ⟨0, []⟩ results w' ∧
      AuthorizationContext.inDollars.Gains (results.filterMap (·.reported?)) context' ∧
      NoticesSent ⟨0, []⟩ w' (results.flatMap (·.notices)) ∧
      context'.lines.map (·.accountId) = ["210987654321", "123456789012", "210987654321", "123456789012"] ∧
      context'.reports.accounts.keys = ["123456789012", "210987654321"] ∧
      (context'.reports.accounts.get? "210987654321").bind (·.get? "CostByRecordTypeAndService") =
        some (.dearer 6) ∧
      context'.reports.marketplaceUsage.get? "123456789012" = some (.dearer 5) ∧
      (results.flatMap (·.notices)).map (·.title) = ["Billing journal failed for agreement AGR-1",
        "Billing journal failed for subscription SUB-310987654321"] := by
  have hdecimals : ¬ threeAgreementsRun.Overflows ⟨0, []⟩ := by decide +kernel
  have hvalue : (threeAgreementsRun.value? ⟨0, []⟩).map (fun e =>
      (e.1.lines.map (·.accountId), e.1.reports.accounts.keys,
        (e.1.reports.accounts.get? "210987654321").bind (·.get? "CostByRecordTypeAndService"),
        e.1.reports.marketplaceUsage.get? "123456789012", (e.2.calls.filterMap Call.notice?).map (·.title))) =
      some (["210987654321", "123456789012", "210987654321", "123456789012"], ["123456789012", "210987654321"],
        some (.dearer 6), some (.dearer 5), ["Billing journal failed for agreement AGR-1",
          "Billing journal failed for subscription SUB-310987654321"]) := by
    decide +kernel
  obtain ⟨results, context', w', hends, hturns, hgains, hsent⟩ := agreements_allOrNothing hdecimals
  rw [threeAgreementsRun, Run.value?_eq_some.mpr hends] at hvalue
  simp only [Option.map_some, Option.some.injEq, Prod.mk.injEq] at hvalue
  obtain ⟨hlines, hkeys, hreport, husage, htitles⟩ := hvalue
  refine ⟨hdecimals, results, context', w', hends, hturns, hgains, hsent, hlines, hkeys, hreport, husage, ?_⟩
  obtain ⟨new, hcalls, hnew⟩ := hsent
  rw [← hnew, ← htitles, hcalls, List.nil_append]

end Generator

end CostJournal
