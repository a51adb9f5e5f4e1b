import CostJournal.Proofs.Authorization.Separate
import CostJournal.Proofs.Leads

/-!
# The stages of an authorization

First a journal is found or created (`JournalOpens`), and then the agreements are billed into it
(`billInto`). What every single call leads to, the stages and the whole run lead to as well
(`generate_leads`); all that comes after the first stage keeps to its journal (`summarize_keepsTo`).
-/

namespace CostJournal

variable {σ : Type} {S : World σ → World σ → Prop}

structure ReportProvider.CallsLead (S : World σ → World σ → Prop) (provider : ReportProvider σ) :
    Prop where
  costAndUsage : ∀ query w, S w (w.after (.costAndUsage query) (provider.costAndUsage query))
  invoiceSummaries : ∀ accountId period w,
    S w (w.after (.invoiceSummaries accountId period) (provider.invoiceSummaries accountId period))

/-- Every call leads as `S` says, apart from those that find or create a journal. Uploads need do so for
the `owned` journals only. -/
structure CallsLead (S : World σ → World σ → Prop) (c : Collaborators σ) (owned : String → Prop) :
    Prop where
  authorizations : ∀ query w, S w (w.after (.authorizations query) (c.authorizations query))
  agreements : ∀ query w, S w (w.after (.agreements query) (c.agreements query))
  upload : ∀ journalId content filename w, owned journalId →
    S w (w.after (.upload journalId content filename) (c.upload journalId content filename))
  attach : ∀ journalId attachment w, owned journalId →
    S w (w.after (.attach journalId attachment) (c.attach journalId attachment))
  connect : ∀ mpaId w, S w (w.after (.connect mpaId) (c.connect mpaId))
  provider : ∀ mpaId s provider, (c.connect mpaId s).1 = .ok provider → provider.CallsLead S
  notify : ∀ notice w, S w (w.after (.notify notice) (c.notify notice))

theorem CallsLead.imp {S' : World σ → World σ → Prop} {c : Collaborators σ} {owned : String → Prop}
    (h : CallsLead S c owned) (himp : ∀ w w', S w w' → S' w w') : CallsLead S' c owned where
  authorizations query w := himp _ _ (h.authorizations query w)
  agreements query w := himp _ _ (h.agreements query w)
  upload journalId content filename w howned := himp _ _ (h.upload journalId content filename w howned)
  attach journalId attachment w howned := himp _ _ (h.attach journalId attachment w howned)
  connect mpaId w := himp _ _ (h.connect mpaId w)
  provider mpaId s provider hconnect :=
    have hprovider := h.provider mpaId s provider hconnect
    ⟨fun query w => himp _ _ (hprovider.costAndUsage query w),
      fun accountId period w => himp _ _ (hprovider.invoiceSummaries accountId period w)⟩
  notify notice w := himp _ _ (h.notify notice w)

namespace Generator
variable {c : Collaborators σ} {p : Plan} {a : Authorization} {w w' : World σ}

/-- Bills the agreements of an authorization into a journal. -/
def billInto (c : Collaborators σ) (p : Plan) (a : Authorization) (journalId : String) :
    Task σ AuthorizationResult := do
  let query := p.agreementsQuery a.id
  let agreements ← Task.call (.agreements query) (c.agreements query)
  if agreements.isEmpty then return .noAgreements journalId
  let context ← liftM <| agreements.foldlM (addAgreement c p) { authorization := a, journalId }
  if context.lines.isEmpty then return .noLines journalId
  uploadJournal c p context

theorem generateAuthorization_eq :
    generateAuthorization c p a = findOrCreateJournal c p a.id >>= billInto c p a := rfl

/-- What the operators are told of an authorization that fails. -/
def authorizationNotice (a : Authorization) (e : Failure) : Notice where
  kind := .error
  title := "Billing journal failed for " ++ a.id
  text := e.message

/-- The summary of what came of an authorization; a failure is told. -/
def conclude (c : Collaborators σ) (a : Authorization) :
    Except Failure AuthorizationResult → Run σ AuthorizationSummary
  | .ok result => return ⟨a.id, result⟩
  | .error e => do
    Run.tell c (authorizationNotice a e)
    return ⟨a.id, .failed e.message⟩

theorem summarize_eq : summarize c p a = ExceptT.run (generateAuthorization c p a) >>= conclude c a := rfl

/-- In a run from `w`, the authorization `a` comes to its turn in the world `w'`. -/
def ComesToTurn (c : Collaborators σ) (p : Plan) (w : World σ) (a : Authorization) (w' : World σ) : Prop :=
  ∃ listed before after summaries, (c.authorizations p.authorizationsQuery w.state).1 = .ok listed ∧
    listed.getD [] = before ++ a :: after ∧
    InTurn (fun a w y w' => (summarize c p a).Ends w y w') before (afterListing c p w) summaries w'

/-- A pending journal among those that the ledger returns is used, and without one a journal is created. -/
inductive JournalOpens (c : Collaborators σ) (p : Plan) (id : String) (w : World σ) :
    Except Failure String → World σ → Prop
  | unanswered {e : Failure} {s : σ} :
    c.journals (p.journalsQuery id) w.state = (.error e, s) →
    JournalOpens c p id w (.error e) ⟨s, w.calls ++ [.journals (p.journalsQuery id)]⟩
  | reused {journals : List Journal} {s : σ} {j : Journal} :
    c.journals (p.journalsQuery id) w.state = (.ok journals, s) →
    journals.find? (·.isPending) = some j →
    JournalOpens c p id w (.ok j.id) ⟨s, w.calls ++ [.journals (p.journalsQuery id)]⟩
  | refused {journals : List Journal} {s s' : σ} {e : Failure} :
    c.journals (p.journalsQuery id) w.state = (.ok journals, s) →
    journals.find? (·.isPending) = none →
    c.createJournal (p.newJournal id (journals.length + 1)) s = (.error e, s') →
    JournalOpens c p id w (.error e) ⟨s', w.calls ++ [.journals (p.journalsQuery id),
      .createJournal (p.newJournal id (journals.length + 1))]⟩
  | created {journals : List Journal} {s s' : σ} {j : Journal} :
    c.journals (p.journalsQuery id) w.state = (.ok journals, s) →
    journals.find? (·.isPending) = none →
    c.createJournal (p.newJournal id (journals.length + 1)) s = (.ok j, s') →
    JournalOpens c p id w (.ok j.id) ⟨s', w.calls ++ [.journals (p.journalsQuery id),
      .createJournal (p.newJournal id (journals.length + 1))]⟩

/-- Decimals have no part in finding or creating a journal, so this stage always ends. -/
theorem findOrCreateJournal_opens (c : Collaborators σ) (p : Plan) (id : String) (w : World σ) :
    ∃ r w', (findOrCreateJournal c p id).Ends w r w' ∧ JournalOpens c p id w r w' := by
  unfold findOrCreateJournal
  match hquery : c.journals (p.journalsQuery id) w.state with
  | (.error e, s) =>
    exact ⟨_, _, Task.ends_call_bind.mpr (.inl ⟨e, s, hquery, rfl, rfl⟩), .unanswered hquery⟩
  | (.ok journals, s) =>
    match hfind : journals.find? (·.isPending) with
    | some j =>
      refine ⟨_, _, Task.ends_call_bind.mpr (.inr ⟨journals, s, hquery, ?_⟩), .reused hquery hfind⟩
      rw [hfind]
      exact Task.ends_pure.mpr ⟨rfl, rfl⟩
    | none =>
      match hcreate : c.createJournal (p.newJournal id (journals.length + 1)) s with
      | (.error e, s') =>
        refine ⟨_, _, Task.ends_call_bind.mpr (.inr ⟨journals, s, hquery, ?_⟩),
          .refused hquery hfind hcreate⟩
        rw [hfind]
        exact Task.ends_call_bind.mpr (.inl ⟨e, s', hcreate, rfl, by rw [List.append_assoc]; rfl⟩)
      | (.ok j, s') =>
        refine ⟨_, _, Task.ends_call_bind.mpr (.inr ⟨journals, s, hquery, ?_⟩),
          .created hquery hfind hcreate⟩
        rw [hfind]
        refine Task.ends_call_bind.mpr (.inr ⟨j, s', hcreate, ?_⟩)
        exact Task.ends_pure.mpr ⟨rfl, by rw [List.append_assoc]; rfl⟩

theorem journalOpens_of_ends {id : String} {r : Except Failure String}
    (h : (findOrCreateJournal c p id).Ends w r w') : JournalOpens c p id w r w' := by
  obtain ⟨r', w₁, hends, hopens⟩ := findOrCreateJournal_opens c p id w
  obtain ⟨hr, rfl⟩ := Prod.mk.inj (hends.symm.trans h)
  cases hr
  exact hopens

section
variable [IsPreorder (World σ) S] {owned : String → Prop}

theorem processAccount_leads {s : Scope σ} (h : s.provider.CallsLead S) (accountId : String)
    (items : List SubscriptionLine) : (processAccount p s accountId items).Leads S :=
  (Task.Leads.provide (h.costAndUsage _)).bind fun _ _ _ _ =>
    (Task.Leads.provide (h.costAndUsage _)).bind fun _ _ _ _ => .compute _

theorem addPass_leads (h : CallsLead S c owned) {s : Scope σ} (hs : s.provider.CallsLead S)
    (agreementId : String) (o : AgreementOutcome) (q : Subscription × String) :
    (addPass c p s agreementId o q.1 q.2).Leads S :=
  Run.Leads.bind (processAccount_leads hs q.2 q.1.lines) fun r _ _ _ =>
    match r with
    | .ok _ => .pure _
    | .error _ => (Run.Leads.tell (h.notify _)).bind fun _ _ _ _ => .pure _

theorem reconcileAgreement_leads (h : CallsLead S c owned) (currency : String) (g : Agreement) :
    (reconcileAgreement c p currency g).Leads S := by
  unfold reconcileAgreement
  cases g.mpaId? with
  | none => exact (Task.Leads.throw _).bind fun _ _ _ hends => nomatch (Task.ends_throw.mp hends).1
  | some mpaId =>
    refine (Task.Leads.pure mpaId).bind fun mpaId _ _ _ => ?_
    refine (Task.Leads.provide (h.connect mpaId)).bind fun provider w _ hends => ?_
    have hprovider : provider.CallsLead S :=
      h.provider mpaId w.state provider (Task.answer_of_ends_provide hends)
    refine (Task.Leads.provide (hprovider.costAndUsage _)).bind fun marketplace _ _ _ => ?_
    refine (Task.Leads.provide (hprovider.invoiceSummaries _ _)).bind fun summaries _ _ _ => ?_
    refine (Task.Leads.compute _).bind fun invoices _ _ _ => (Task.Leads.compute _).bind fun _ _ _ _ => ?_
    refine (Task.Leads.liftM ?_).bind fun _ _ _ _ => .pure _
    exact .foldlM (addPass_leads h hprovider g.id) _ _

theorem addAgreement_leads (h : CallsLead S c owned) (context : AuthorizationContext) (g : Agreement) :
    (addAgreement c p context g).Leads S :=
  Run.Leads.bind (reconcileAgreement_leads h _ g) fun r _ _ _ =>
    match r with
    | .ok _ => .pure _
    | .error _ => (Run.Leads.tell (h.notify _)).bind fun _ _ _ _ => .pure _

theorem closeUpload_leads (h : CallsLead S c owned) {context : AuthorizationContext}
    (howned : owned context.journalId) (failedLinesId : Option String) :
    (closeUpload c p context failedLinesId).Leads S :=
  (Task.Leads.compute _).bind fun _ _ _ _ => (Task.Leads.call (h.attach _ _ · howned)).bind fun _ _ _ _ =>
    (Task.Leads.liftM (.tell (h.notify _))).bind fun _ _ _ _ => .pure _

theorem uploadJournal_leads (h : CallsLead S c owned) {context : AuthorizationContext}
    (howned : owned context.journalId) : (uploadJournal c p context).Leads S := by
  refine (Task.Leads.call (h.upload _ _ _ · howned)).bind fun _ _ _ _ => ?_
  cases failedLinesAttachment context.journalId context.lines with
  | some attachment =>
    exact ((Task.Leads.call (h.attach _ attachment · howned)).map some).bind fun failedLinesId _ _ _ =>
      closeUpload_leads h howned failedLinesId
  | none =>
    exact (Task.Leads.pure none).bind fun failedLinesId _ _ _ => closeUpload_leads h howned failedLinesId

theorem journalId_of_foldlM_addAgreement {agreements : List Agreement}
    {context context' : AuthorizationContext}
    (h : Run.Ends (agreements.foldlM (addAgreement c p) context) w context' w') :
    context'.journalId = context.journalId := by
  obtain ⟨results, -, rfl⟩ := foldlM_addAgreement_agreementRuns h
  exact (AgreementResult.gains_foldl_addTo results context).journalId

theorem billInto_leads (h : CallsLead S c owned) {journalId : String} (howned : owned journalId) :
    (billInto c p a journalId).Leads S := by
  refine (Task.Leads.call (h.agreements _)).bind fun agreements _ _ _ => ?_
  by_cases hnone : agreements.isEmpty
  · rw [if_pos hnone]
    exact .pure _
  rw [if_neg hnone]
  refine (Task.Leads.liftM (.foldlM (addAgreement_leads h) _ _)).bind fun context _ _ hcontext => ?_
  by_cases hlines : context.lines.isEmpty
  · rw [if_pos hlines]
    exact .pure _
  rw [if_neg hlines]
  -- the agreements leave the journal as it is
  obtain ⟨_, hends, hr⟩ := Task.ends_liftM.mp hcontext
  cases hr
  exact uploadJournal_leads h (by rw [journalId_of_foldlM_addAgreement hends]; exact howned)

theorem conclude_leads (hnotify : ∀ notice w, S w (w.after (.notify notice) (c.notify notice)))
    (r : Except Failure AuthorizationResult) : (conclude c a r).Leads S :=
  match r with
  | .ok _ => .pure _
  | .error _ => (Run.Leads.tell (hnotify _)).bind fun _ _ _ _ => .pure _

theorem generateAuthorization_leads (h : CallsLead S c fun _ => True)
    (hopening : (findOrCreateJournal c p a.id).Leads S) : (generateAuthorization c p a).Leads S := by
  rw [generateAuthorization_eq]
  refine hopening.bind fun journalId _ _ _ => ?_
  exact billInto_leads h trivial

theorem summarize_leads (h : CallsLead S c fun _ => True)
    (hopening : (findOrCreateJournal c p a.id).Leads S) : (summarize c p a).Leads S := by
  rw [summarize_eq]
  exact Run.Leads.bind (generateAuthorization_leads h hopening) fun r _ _ _ => conclude_leads h.notify r

/-- A run leads as all its calls do. -/
theorem generate_leads (h : CallsLead S c fun _ => True)
    (hopening : ∀ id, (findOrCreateJournal c p id).Leads S) : (generate c p).Leads S := by
  refine (Task.Leads.call (h.authorizations _)).bind fun listed _ _ _ => ?_
  refine (Task.Leads.liftM ?_).bind fun _ _ _ _ => .pure _
  refine .mapM (fun a => ?_) _
  exact summarize_leads h (hopening a.id)

end

end Generator

/-- The calls between two worlds are all of one kind. -/
def CallsOnly (kind : Call → Prop) (w w' : World σ) : Prop :=
  ∃ new, w'.calls = w.calls ++ new ∧ ∀ call ∈ new, kind call

namespace CallsOnly
variable {kind : Call → Prop}

instance : IsPreorder (World σ) (CallsOnly kind) where
  refl w := ⟨[], by simp⟩
  trans w w₁ w' := by
    rintro ⟨new, hcalls, hnew⟩ ⟨new', hcalls', hnew'⟩
    refine ⟨new ++ new', by rw [hcalls', hcalls, List.append_assoc], fun call hcall => ?_⟩
    exact (List.mem_append.mp hcall).elim (hnew call) (hnew' call)

theorem after {α : Type} {call : Call} {answer : σ → α × σ} (h : kind call) (w : World σ) :
    CallsOnly kind w (w.after call answer) :=
  ⟨[call], rfl, List.forall_mem_singleton.mpr h⟩

end CallsOnly

end CostJournal
