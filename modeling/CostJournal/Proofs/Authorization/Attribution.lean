import CostJournal.Proofs.Account.Provenance
import CostJournal.Proofs.Agreement.Selection
import CostJournal.Proofs.Authorization.CutShort
import CostJournal.Proofs.Authorization.Protocol

/-!
# Whom an uploaded line bills

A line is attributed to an agreement (`IsAttributedTo`) when it carries the agreement's ids, the month of
the run and an account that the agreement bills, and names an item that this account is billed with. Passes
write only such lines (`Account/Provenance.lean`); agreements and authorizations only put lines together,
so the lines of a journal file are attributed to agreements of its authorization (`uploads_attributed`).
-/

namespace CostJournal

/-- An account is billed with the items of the subscription: it is a live one on that account, or the
first live one where the account is the paying account, without a subscription and not split off. -/
inductive Agreement.BillsWith (g : Agreement) (mpaId : String) (s : Subscription) : String → Prop
  | own {accountId : String} : s ∈ g.subscriptions → s.isTerminated = false →
    s.accountId? = some accountId → g.BillsWith mpaId s accountId
  | payingAccount : g.isSplitBilling = false → (∀ s' ∈ g.subscriptions, s'.accountId? ≠ some mpaId) →
    g.firstActiveSubscription? = some s → g.BillsWith mpaId s mpaId

/-- What a line says of whom it bills, with what and for when. -/
structure IsAttributedTo (p : Plan) (g : Agreement) (l : JournalLine) : Prop where
  reference : l.agreementId = g.id
  vendor : g.mpaId? = some l.mpaId
  firstDay : l.startDate = p.period.startDate
  lastDay : l.endDate = p.period.lastDay
  unitPrice : l.unitPrice = l.price
  quantity : l.quantity = 1
  billed : ∃ s, g.BillsWith l.mpaId s l.subscriptionSearch.value ∧ IsBilledThrough p.table s.lines l

/-- If the call uploads a file, then one that is as `isFile` says. -/
def Call.UploadsOnly (isFile : String → String → String → Prop) : Call → Prop
  | .upload journalId content filename => isFile journalId content filename
  | _ => True

namespace Generator
variable {σ : Type} {c : Collaborators σ} {p : Plan} {a : Authorization} {g : Agreement} {w w' : World σ}
  {l : JournalLine}

theorem billsWith_of_mem_passes {mpaId : String} {q : Subscription × String} (h : q ∈ passes g mpaId) :
    g.BillsWith mpaId q.1 q.2 := by
  rcases List.mem_append.mp h with h | h
  · obtain ⟨s, hs, hq⟩ := List.mem_filterMap.mp h
    cases hlive : s.isTerminated with
    | true =>
      rw [hlive, if_pos rfl] at hq
      cases hq
    | false =>
      rw [hlive, if_neg Bool.false_ne_true] at hq
      obtain ⟨accountId, haccount, rfl⟩ := Option.map_eq_some_iff.mp hq
      exact .own hs hlive haccount
  · rw [Option.mem_toList] at h
    obtain ⟨s, hs, rfl⟩ := Option.map_eq_some_iff.mp h
    obtain ⟨hsplit, hnone, hfirst⟩ := Agreement.mpaSubscription?_eq_some.mp hs
    exact .payingAccount hsplit (fun s' hs' heq => hnone s' hs' (Subscription.accountId?_eq_some.mp heq)) hfirst

/-- A pass of an agreement writes lines of that agreement. -/
theorem PassReturns.attributed {mpaId : String} {s : Scope σ} {q : Subscription × String} {start ready : σ}
    {pass : ReportedPass} (hmpa : g.mpaId? = some mpaId) (hdetails : s.details = p.details g.id mpaId)
    (hq : q ∈ passes g mpaId) (h : PassReturns p s q start pass ready) (hl : l ∈ pass.lines) :
    IsAttributedTo p g l := by
  cases h with
  | @reported costs entities _ _ m _ _ _ _ _ hbills =>
    obtain ⟨hfills, hthrough⟩ := hbills.stems l hl
    have hpass : ((s.pass q costs entities).builder m).details = p.details g.id mpaId := hdetails
    obtain rfl : l.mpaId = mpaId := by rw [hfills.mpaId, hpass]; rfl
    refine ⟨?_, hmpa, ?_, ?_, hfills.unitPrice, hfills.quantity, q.1, ?_, hthrough⟩
    · rw [hfills.agreementId, hpass]
      rfl
    · rw [hfills.startDate, hpass]
      rfl
    · rw [hfills.endDate, hpass]
      rfl
    · rw [hfills.accountId]
      exact billsWith_of_mem_passes hq

theorem AgreementRuns.attributed {currency : String} {r : AgreementResult} {a : ReportedAgreement}
    (h : AgreementRuns c p currency g w r w') (ha : r.reported? = some a) {pass : ReportedPass}
    (hpass : pass ∈ a.passes) (hl : l ∈ pass.lines) : IsAttributedTo p g l := by
  cases h with
  | refused _ _ _ _ => cases ha
  | reconciled hmpa hadmits hpasses hturns _ =>
    cases ha
    obtain ⟨r, hr, hsome⟩ := List.mem_filterMap.mp hpass
    obtain ⟨q, hq, _, _, hruns⟩ := hturns.exists_of_mem hr
    cases hruns with
    | failed _ _ => cases hsome
    | returned hreturns =>
      cases hsome
      exact hreturns.attributed hmpa hadmits.details (passesAre_iff.mp hpasses ▸ hq) hl

/-- What agreements add to an authorization are lines of these agreements. -/
theorem attributed_of_mem_gathered {currency journalId : String} {agreements : List Agreement}
    {results : List AgreementResult} (h : InTurn (AgreementRuns c p currency) agreements w results w')
    (hl : l ∈ (results.foldl AgreementResult.addTo { authorization := a, journalId }).lines) :
    ∃ g ∈ agreements, IsAttributedTo p g l := by
  rw [(AgreementResult.gains_foldl_addTo results _).lines] at hl
  rcases List.mem_append.mp hl with hl | hl
  · exact nomatch hl
  obtain ⟨pass, hpass, hl⟩ := List.mem_flatMap.mp hl
  obtain ⟨reported, hreported, hpass⟩ := List.mem_flatMap.mp hpass
  obtain ⟨r, hr, hreported⟩ := List.mem_filterMap.mp hreported
  obtain ⟨g, hg, _, _, hruns⟩ := h.exists_of_mem hr
  exact ⟨g, hg, hruns.attributed hreported hpass hl⟩

/-- The file is one of an authorization that is taken up in the world `w`: it goes to its journal, and its
lines are attributed to agreements that are then listed for it. -/
def IsFileOf (c : Collaborators σ) (p : Plan) (a : Authorization) (w : World σ)
    (journalId content filename : String) : Prop :=
  ∃ opened agreements listed lines, (findOrCreateJournal c p a.id).Ends w (.ok journalId) opened ∧
    c.agreements (p.agreementsQuery a.id) opened.state = (.ok agreements, listed) ∧
    filename = journalFilename a.id p.period ∧ content = JournalLine.fileText lines ∧
    ∀ l ∈ lines, ∃ g ∈ agreements, IsAttributedTo p g l

theorem mem_uploads_isFileOf {course : Course} {w₁ : World σ} (htakes : Takes c p a w course w₁)
    {journalId content filename : String} (hcall : .upload journalId content filename ∈ course.uploads p) :
    IsFileOf c p a w journalId content filename := by
  cases htakes with
  | unopened _ => exact nomatch hcall
  | opened hopens hbills =>
    cases hbills with
    | unlisted _ => exact nomatch hcall
    | withoutAgreements _ => exact nomatch hcall
    | withoutLines _ _ _ _ _ => exact nomatch hcall
    | @gathered agreements results context archive listed _ hlist _ hturns hcontext _ _ =>
      rcases List.mem_cons.mp hcall with heq | hattach
      · cases heq
        refine ⟨_, agreements, listed, context.lines, ?_, hlist, ?_, rfl, fun l hl => ?_⟩
        · rw [hcontext, (AgreementResult.gains_foldl_addTo results _).journalId]
          exact hopens
        · rw [hcontext, (AgreementResult.gains_foldl_addTo results _).authorization]
        · rw [hcontext] at hl
          exact attributed_of_mem_gathered hturns hl
      · simp at hattach

/-- Whether decimals cut it short or not, for an authorization only files of its own are uploaded. -/
theorem summarize_uploads (c : Collaborators σ) (p : Plan) (a : Authorization) (w : World σ) :
    CallsOnly (Call.UploadsOnly (IsFileOf c p a w)) w ((summarize c p a).result w).2 := by
  by_cases hdecimals : Run.Overflows (summarize c p a) w
  · obtain ⟨o, w', hstops⟩ := Run.overflows_iff.mp hdecimals
    obtain ⟨g, w₁, hcomes, hout⟩ := summarize_stops.mp hstops
    obtain ⟨new, hcalls, hnew⟩ := agreementRunsOut_uploadsNothing hcomes hout
    rw [show (summarize c p a).result w = _ from hstops]
    refine ⟨new, hcalls, fun call hcall => ?_⟩
    cases call with
    | upload _ _ _ => exact (hnew _ hcall).elim
    | _ => trivial
  · obtain ⟨y, w', hends⟩ := Run.ends_of_not_overflows hdecimals
    obtain ⟨_, course, w₁, log, _, -, htakes, hlogged, hcut, -⟩ := summarize_settles hends
    obtain ⟨new, hcalls, hnew⟩ := hlogged.map_fst
    rw [show (summarize c p a).result w = _ from hends]
    refine ⟨new, hcalls, fun call hcall => ?_⟩
    cases call with
    | upload journalId content filename =>
      have hlog : .upload journalId content filename ∈ log.map (·.1) := by
        rw [← hnew]
        exact List.mem_filter.mpr ⟨hcall, rfl⟩
      rcases List.mem_append.mp (hcut.mem_of_mem_log hlog) with hopening | huploads
      · -- no journal is opened by uploading a file
        unfold opening at hopening
        rcases List.mem_cons.mp hopening with heq | hopening
        · cases heq
        split at hopening
        · split at hopening <;> simp at hopening
        · simp at hopening
      · exact mem_uploads_isFileOf htakes huploads
    | _ => trivial

/-- Every file that a run uploads is that of an authorization in its turn, and every line in it is
attributed to one of that authorization's agreements. -/
theorem uploads_attributed (c : Collaborators σ) (p : Plan) (w : World σ) :
    ∃ new, ((ExceptT.run (generate c p)).result w).2.calls = w.calls ++ new ∧
      ∀ journalId content filename, .upload journalId content filename ∈ new →
        ∃ a turn, ComesToTurn c p w a turn ∧ IsFileOf c p a turn journalId content filename := by
  have hleads : CallsOnly (Call.UploadsOnly fun journalId content filename =>
      ∃ a turn, ComesToTurn c p w a turn ∧ IsFileOf c p a turn journalId content filename) w
      ((ExceptT.run (generate c p)).result w).2 := by
    refine Task.Leads.bind_from (CallsOnly.after trivial w) fun authorizations w₁ hlist => ?_
    obtain ⟨hlisted, rfl⟩ := Task.ends_call.mp hlist
    refine Task.Leads.bind_from (Task.Leads.liftM_from (Run.Leads.mapM_from ?_)) fun _ w₂ _ => refl_of _ w₂
    intro before a after summaries turn hauthorizations hbefore
    obtain ⟨new, hcalls, hnew⟩ := summarize_uploads c p a turn
    refine ⟨new, hcalls, fun call hcall => ?_⟩
    cases call with
    | upload _ _ _ =>
      exact ⟨a, turn, ⟨authorizations, before, after, summaries, hlisted.symm, hauthorizations, hbefore⟩,
        hnew _ hcall⟩
    | _ => trivial
  obtain ⟨new, hcalls, hnew⟩ := hleads
  exact ⟨new, hcalls, fun journalId content filename hcall => hnew _ hcall⟩

end Generator

end CostJournal
