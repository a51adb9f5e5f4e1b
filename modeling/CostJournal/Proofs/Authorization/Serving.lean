import CostJournal.Proofs.Agreement.Isolation
import CostJournal.Proofs.Alike

/-!
# Authorizations that are served alike

`ServesAlike` says that two systems answer alike whatever is asked for one authorization. Then
generating its journal goes alike with both (`summarize_alike`): each part of the program is taken
through the rules for runs that go alike. Uploads name a journal that was found or created for the
authorization, which `findOrCreateJournal_owned` keeps track of.
-/

namespace CostJournal

variable {σ : Type} {R : σ → σ → Prop}

/-- A provider answers alike from related states. -/
structure ReportProvider.Alike (R : σ → σ → Prop) (provider : ReportProvider σ) : Prop where
  costAndUsage : ∀ q, AnswersAlike R (provider.costAndUsage q) (provider.costAndUsage q)
  invoiceSummaries : ∀ accountId period,
    AnswersAlike R (provider.invoiceSummaries accountId period) (provider.invoiceSummaries accountId period)

/-- From related states two systems answer alike whatever a run asks for the authorization `id`, whose
journals are among those that it `owns`. -/
structure ServesAlike (R : σ → σ → Prop) (p : Plan) (id : String) (owns : String → Prop)
    (c c' : Collaborators σ) : Prop where
  agreements : AnswersAlike R (c.agreements (p.agreementsQuery id)) (c'.agreements (p.agreementsQuery id))
  journals : AnswersAlike R (c.journals (p.journalsQuery id)) (c'.journals (p.journalsQuery id))
  createJournal : ∀ n, AnswersAlike R (c.createJournal (p.newJournal id n)) (c'.createJournal (p.newJournal id n))
  upload : ∀ journalId content filename, owns journalId →
    AnswersAlike R (c.upload journalId content filename) (c'.upload journalId content filename)
  attach : ∀ journalId attachment, owns journalId →
    AnswersAlike R (c.attach journalId attachment) (c'.attach journalId attachment)
  connect : ∀ mpaId, AnswersAlike R (c.connect mpaId) (c'.connect mpaId)
  provider : ∀ mpaId s provider, (c.connect mpaId s).1 = .ok provider → provider.Alike R
  notify : ∀ n s s', R s s' → R (c.notify n s).2 (c'.notify n s').2
  found : ∀ s journals, (c.journals (p.journalsQuery id) s).1 = .ok journals → ∀ j ∈ journals, owns j.id
  created : ∀ n s j, (c.createJournal (p.newJournal id n) s).1 = .ok j → owns j.id

namespace Generator
variable {p : Plan} {id : String} {owns : String → Prop} {c c' : Collaborators σ} {w w' : World σ}

theorem processAccount_alike {s : Scope σ} (h : s.provider.Alike R) (accountId : String)
    (items : List SubscriptionLine) :
    (processAccount p s accountId items).Alike R (processAccount p s accountId items) :=
  (Task.Alike.provide (h.costAndUsage _)).bind fun _ _ _ _ =>
    (Task.Alike.provide (h.costAndUsage _)).bind fun _ _ _ _ => .compute _

theorem addPass_alike (h : ServesAlike R p id owns c c') {s : Scope σ} (hs : s.provider.Alike R)
    (agreementId : String) (o : AgreementOutcome) (q : Subscription × String) :
    (addPass c p s agreementId o q.1 q.2).Alike R (addPass c' p s agreementId o q.1 q.2) :=
  Run.Alike.bind (processAccount_alike hs q.2 q.1.lines) fun r _ _ _ =>
    match r with
    | .ok _ => .pure _
    | .error _ => (Run.Alike.tell (h.notify _)).bind fun _ _ _ _ => .pure _

theorem reconcileAgreement_alike (h : ServesAlike R p id owns c c') (currency : String) (a : Agreement) :
    (reconcileAgreement c p currency a).Alike R (reconcileAgreement c' p currency a) := by
  unfold reconcileAgreement
  cases a.mpaId? with
  | none => exact (Task.Alike.throw _).bind fun _ _ _ hends => nomatch (Task.ends_throw.mp hends).1
  | some mpaId =>
    refine (Task.Alike.pure mpaId).bind fun mpaId _ _ _ => ?_
    refine (Task.Alike.provide (h.connect mpaId)).bind fun provider w _ hends => ?_
    have hprovider : provider.Alike R :=
      h.provider mpaId w.state provider (Task.answer_of_ends_provide hends)
    refine (Task.Alike.provide (hprovider.costAndUsage _)).bind fun marketplace _ _ _ => ?_
    refine (Task.Alike.provide (hprovider.invoiceSummaries _ _)).bind fun summaries _ _ _ => ?_
    refine (Task.Alike.compute _).bind fun invoices _ _ _ => (Task.Alike.compute _).bind fun _ _ _ _ => ?_
    refine (Task.Alike.liftM ?_).bind fun _ _ _ _ => .pure _
    exact .foldlM (addPass_alike h hprovider a.id) _ _

theorem addAgreement_alike (h : ServesAlike R p id owns c c') (context : AuthorizationContext)
    (a : Agreement) : (addAgreement c p context a).Alike R (addAgreement c' p context a) :=
  Run.Alike.bind (reconcileAgreement_alike h _ a) fun r _ _ _ =>
    match r with
    | .ok _ => .pure _
    | .error _ => (Run.Alike.tell (h.notify _)).bind fun _ _ _ _ => .pure _

/-- The end of an upload: the archive, and the notice that closes it. -/
def closeUpload (c : Collaborators σ) (p : Plan) (context : AuthorizationContext)
    (failedLinesId : Option String) : Task σ AuthorizationResult := do
  let id := context.journalId
  let archive ← Task.compute (Billing.ofExcept (reportsAttachment id context.reports))
  let _ ← Task.call (.attach id archive) (c.attach id archive)
  liftM (Run.tell c (closingNotice p context failedLinesId))
  return .uploaded id context.lines.length context.invalidLines.length

theorem closeUpload_alike (h : ServesAlike R p id owns c c') {context : AuthorizationContext}
    (howns : owns context.journalId) (failedLinesId : Option String) :
    (closeUpload c p context failedLinesId).Alike R (closeUpload c' p context failedLinesId) :=
  (Task.Alike.compute _).bind fun _ _ _ _ => (Task.Alike.call (h.attach _ _ howns)).bind fun _ _ _ _ =>
    (Task.Alike.liftM (.tell (h.notify _))).bind fun _ _ _ _ => .pure _

theorem uploadJournal_alike (h : ServesAlike R p id owns c c') {context : AuthorizationContext}
    (howns : owns context.journalId) :
    (uploadJournal c p context).Alike R (uploadJournal c' p context) := by
  refine (Task.Alike.call (h.upload _ _ _ howns)).bind fun _ _ _ _ => ?_
  cases failedLinesAttachment context.journalId context.lines with
  | some attachment =>
    exact ((Task.Alike.call (h.attach _ attachment howns)).map some).bind fun failedLinesId _ _ _ =>
      closeUpload_alike h howns failedLinesId
  | none => exact (Task.Alike.pure none).bind fun failedLinesId _ _ _ => closeUpload_alike h howns failedLinesId

theorem findOrCreateJournal_alike (h : ServesAlike R p id owns c c') :
    (findOrCreateJournal c p id).Alike R (findOrCreateJournal c' p id) := by
  refine (Task.Alike.call h.journals).bind fun journals _ _ _ => ?_
  cases journals.find? (·.isPending) with
  | some j => exact .pure j.id
  | none => exact (Task.Alike.call (h.createJournal _)).bind fun _ _ _ _ => .pure _

/-- A journal that is found or created belongs to the authorization. -/
theorem findOrCreateJournal_owned (h : ServesAlike R p id owns c c') {journalId : String}
    (hends : (findOrCreateJournal c p id).Ends w (.ok journalId) w') : owns journalId := by
  rcases Task.ends_call_bind.mp hends with ⟨_, _, -, he, -⟩ | ⟨journals, found, hjournals, hends⟩
  · cases he
  match hfind : journals.find? (·.isPending) with
  | some j =>
    rw [hfind] at hends
    obtain ⟨hr, -⟩ := Task.ends_pure.mp hends
    cases hr
    exact h.found w.state journals (by rw [hjournals]) j (List.mem_of_find?_eq_some hfind)
  | none =>
    rw [hfind] at hends
    rcases Task.ends_call_bind.mp hends with ⟨_, _, -, he, -⟩ | ⟨j, created, hcreated, hends⟩
    · cases he
    obtain ⟨hr, -⟩ := Task.ends_pure.mp hends
    cases hr
    exact h.created _ found j (by rw [hcreated])

theorem generateAuthorization_alike {a : Authorization} (h : ServesAlike R p a.id owns c c') :
    (generateAuthorization c p a).Alike R (generateAuthorization c' p a) := by
  refine (findOrCreateJournal_alike h).bind fun journalId _ _ hjournal => ?_
  have howns : owns journalId := findOrCreateJournal_owned h hjournal
  refine (Task.Alike.call h.agreements).bind fun agreements _ _ _ => ?_
  by_cases hnone : agreements.isEmpty
  · rw [if_pos hnone, if_pos hnone]
    exact .pure _
  rw [if_neg hnone, if_neg hnone]
  refine (Task.Alike.liftM (.foldlM (addAgreement_alike h) _ _)).bind fun context _ _ hcontext => ?_
  by_cases hlines : context.lines.isEmpty
  · rw [if_pos hlines, if_pos hlines]
    exact .pure _
  rw [if_neg hlines, if_neg hlines]
  -- the agreements leave the journal as it is
  obtain ⟨_, hends, hr⟩ := Task.ends_liftM.mp hcontext
  cases hr
  obtain ⟨results, -, rfl⟩ := foldlM_addAgreement_agreementRuns hends
  have hid := (AgreementResult.gains_foldl_addTo results { authorization := a, journalId }).journalId
  exact uploadJournal_alike h (by rw [hid]; exact howns)

/-- The outcome of an authorization that is served alike is the same, and so are all calls for it. -/
theorem summarize_alike {a : Authorization} (h : ServesAlike R p a.id owns c c') :
    (summarize c p a).Alike R (summarize c' p a) :=
  Run.Alike.bind (generateAuthorization_alike h) fun r _ _ _ =>
    match r with
    | .ok _ => .pure _
    | .error _ => (Run.Alike.tell (h.notify _)).bind fun _ _ _ _ => .pure _

end Generator

end CostJournal
