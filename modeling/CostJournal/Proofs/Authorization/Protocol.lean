import CostJournal.Proofs.Archive.Gathered
import CostJournal.Proofs.Ledger.Log

/-!
# What is done for an authorization, call by call

A `Course` is how far an authorization comes before anything is uploaded: its journal is not opened, its
agreements are not listed, or there are none, or none of them has lines. The course decides which calls to
the ledger are due, `opening` and then `uploads`, and the first of them that fails is the last one made
(`CutAtFailure`). `Protocol` puts this together with the outcome and the notices. Each stage has a lemma
about its part of the log, and `summarize_protocol` is their composition.
-/

namespace CostJournal

namespace Generator
variable {σ : Type} {c : Collaborators σ} {p : Plan} {a : Authorization} {w w' : World σ}
  {log : List (Call × LedgerAnswer)}

/-- The calls that find or create the journal: another one follows the query exactly when no pending
journal was returned. -/
def opening (p : Plan) (id : String) (log : List (Call × LedgerAnswer)) : List Call :=
  .journals (p.journalsQuery id) ::
    match log with
    | (_, .journals journals) :: _ =>
      if journals.any (·.isPending) then [] else [.createJournal (p.newJournal id (journals.length + 1))]
    | _ => []

/-- The journal is the pending one that the ledger returned, or the one that it created. -/
def IsOpened (log : List (Call × LedgerAnswer)) (journalId : String) : Prop :=
  (∃ call journals j, (call, .journals journals) ∈ log ∧ journals.find? (·.isPending) = some j ∧
    j.id = journalId) ∨
  ∃ call j, (call, .created j) ∈ log ∧ j.id = journalId

theorem IsOpened.mono {log' : List (Call × LedgerAnswer)} {journalId : String} (h : IsOpened log journalId)
    (hsub : ∀ entry ∈ log, entry ∈ log') : IsOpened log' journalId :=
  h.imp (fun ⟨call, journals, j, hmem, hrest⟩ => ⟨call, journals, j, hsub _ hmem, hrest⟩)
    fun ⟨call, j, hmem, hid⟩ => ⟨call, j, hsub _ hmem, hid⟩

theorem opening_of_pending {id : String} {call : Call} {journals : List Journal} {j : Journal}
    (h : journals.find? (·.isPending) = some j) :
    opening p id ((call, .journals journals) :: log) = [.journals (p.journalsQuery id)] := by
  have hany : journals.any (·.isPending) = true :=
    List.any_eq_true.mpr ⟨j, List.mem_of_find?_eq_some h, List.find?_some h⟩
  rw [opening, if_pos hany]

theorem opening_of_none {id : String} {call : Call} {journals : List Journal}
    (h : journals.find? (·.isPending) = none) :
    opening p id ((call, .journals journals) :: log) =
      [.journals (p.journalsQuery id), .createJournal (p.newJournal id (journals.length + 1))] := by
  have hany : ¬ journals.any (·.isPending) = true := by
    rw [List.any_eq_true]
    rintro ⟨j, hj, hpending⟩
    exact List.find?_eq_none.mp h j hj hpending
  rw [opening, if_neg hany]

/-- Finding or creating a journal makes these calls and tells nothing. -/
theorem JournalOpens.logged {id : String} {r : Except Failure String} (h : JournalOpens c p id w r w') :
    ∃ log, LedgerLog c w log w' ∧ (∀ log', LogEnds (opening p id (log ++ log')) log r) ∧
      (∀ journalId, r = .ok journalId → IsOpened log journalId) ∧ NoticesSent w w' [] := by
  cases h with
  | unanswered hquery =>
    exact ⟨_, .journals hquery, fun _ => .refused _ _ _, nofun, _, rfl, rfl⟩
  | @reused journals _ _ hquery hfind =>
    refine ⟨_, .journals hquery, fun log' => ?_, ?_, _, rfl, rfl⟩
    · show LogEnds (opening p id ((.journals _, .journals journals) :: log')) _ _
      rw [opening_of_pending hfind]
      exact .cons nofun (.nil _)
    · rintro _ ⟨⟩
      exact .inl ⟨_, _, _, List.mem_singleton_self _, hfind, rfl⟩
  | @refused journals _ _ _ hquery hfind hcreate =>
    have hlog := (LedgerLog.journals hquery).append (.createJournal hcreate)
    rw [List.append_assoc] at hlog
    refine ⟨_, hlog, fun log' => ?_, nofun, _, rfl, rfl⟩
    show LogEnds (opening p id ((.journals _, .journals journals) :: _)) _ _
    rw [opening_of_none hfind]
    exact .cons nofun (.refused _ _ _)
  | @created journals _ _ _ hquery hfind hcreate =>
    have hlog := (LedgerLog.journals hquery).append (.createJournal hcreate)
    rw [List.append_assoc] at hlog
    refine ⟨_, hlog, fun log' => ?_, ?_, _, rfl, rfl⟩
    · show LogEnds (opening p id ((.journals _, .journals journals) :: _)) _ _
      rw [opening_of_none hfind]
      exact .cons nofun (.cons nofun (.nil _))
    · rintro _ ⟨⟩
      exact .inr ⟨_, _, List.mem_cons_of_mem _ (List.mem_singleton_self _), rfl⟩

/-- The calls that upload what was gathered into a journal: the file of its lines, the failed lines if
there are some, and the archive. -/
def uploads (p : Plan) (context : AuthorizationContext) (archive : Attachment FileContent) : List Call :=
  .upload context.journalId (JournalLine.fileText context.lines)
      (journalFilename context.authorization.id p.period) ::
    ((failedLinesAttachment context.journalId context.lines).toList.map (.attach context.journalId) ++
      [.attach context.journalId archive])

/-- The notice that closes an upload links the page of the journal, or below it the page of what the ledger has
for the failed lines. -/
structure Closes (p : Plan) (context : AuthorizationContext) (log : List (Call × LedgerAnswer))
    (n : Notice) : Prop where
  clean : context.invalidLines = [] → n.kind = .success ∧
    n.button = some ⟨"Open journal " ++ context.journalId,
      p.portal.base ++ "/billing/journals/" ++ context.journalId⟩
  withErrors : context.invalidLines ≠ [] → n.kind = .error ∧ ∃ attachment attachmentId,
    failedLinesAttachment context.journalId context.lines = some attachment ∧
    (.attach context.journalId attachment, .attached attachmentId) ∈ log ∧
    n.button = some ⟨"Open failed journal lines",
      p.portal.base ++ "/billing/journals/" ++ context.journalId ++ "/attachments/" ++ attachmentId⟩

theorem failedLinesAttachment_eq_none {context : AuthorizationContext} :
    failedLinesAttachment context.journalId context.lines = none ↔ context.invalidLines = [] := by
  unfold failedLinesAttachment AuthorizationContext.invalidLines
  cases context.lines.filter (!·.isValid) <;> simp

variable {context : AuthorizationContext}

theorem closeUpload_ends {archive : Attachment FileContent}
    {failedLinesId : Option String} {r : Except Failure AuthorizationResult}
    (harchive : reportsAttachment context.journalId context.reports = .ok archive)
    (h : (closeUpload c p context failedLinesId).Ends w r w') :
    ∃ log, LedgerLog c w log w' ∧ LogEnds [.attach context.journalId archive] log r ∧
      ((∃ e, r = .error e) ∧ NoticesSent w w' [] ∨
        r = .ok (.uploaded context.journalId context.lines.length context.invalidLines.length) ∧
          NoticesSent w w' [closingNotice p context failedLinesId]) := by
  rcases Task.ends_compute_bind.mp h with ⟨e, hfails, -, -⟩ | ⟨_, hreturns, h⟩
  · cases harchive.symm.trans (Billing.run_ofExcept.mp hfails)
  cases harchive.symm.trans (Billing.returns_ofExcept.mp hreturns)
  rcases Task.ends_call_bind.mp h with ⟨e, s, hattach, rfl, rfl⟩ | ⟨attachmentId, s, hattach, h⟩
  · exact ⟨_, .attach hattach, .refused _ _ _, .inl ⟨⟨e, rfl⟩, _, rfl, rfl⟩⟩
  obtain ⟨_, w₁, htell, h⟩ := Task.ends_liftM_bind.mp h
  obtain ⟨rfl, rfl⟩ := Task.ends_pure.mp h
  have hw := Run.ends_tell.mp htell
  refine ⟨[(.attach context.journalId archive, .attached attachmentId)], ?_, .cons nofun (.nil _),
    .inr ⟨rfl, .of_silent rfl (.of_tell htell)⟩⟩
  rw [hw]
  exact (LedgerLog.attach hattach).append (.of_other (.notify _))

theorem closes_clean (h : failedLinesAttachment context.journalId context.lines = none) :
    Closes p context log (closingNotice p context none) where
  clean _ := ⟨rfl, rfl⟩
  withErrors hinvalid := absurd (failedLinesAttachment_eq_none.mp h) hinvalid

theorem closes_withErrors {attachment : Attachment FileContent} {attachmentId : String}
    (h : failedLinesAttachment context.journalId context.lines = some attachment)
    (hmem : (.attach context.journalId attachment, .attached attachmentId) ∈ log) :
    Closes p context log (closingNotice p context (some attachmentId)) where
  clean hvalid := nomatch h.symm.trans (failedLinesAttachment_eq_none.mpr hvalid)
  withErrors _ := ⟨rfl, attachment, attachmentId, h, hmem, rfl⟩

/-- An upload fails and tells nothing, or it goes through and ends with the notice that closes it. -/
theorem uploadJournal_ends {archive : Attachment FileContent} {r : Except Failure AuthorizationResult}
    (harchive : reportsAttachment context.journalId context.reports = .ok archive)
    (h : (uploadJournal c p context).Ends w r w') :
    ∃ log, LedgerLog c w log w' ∧ LogEnds (uploads p context archive) log r ∧
      ((∃ e, r = .error e) ∧ NoticesSent w w' [] ∨
        r = .ok (.uploaded context.journalId context.lines.length context.invalidLines.length) ∧
          ∃ n, NoticesSent w w' [n] ∧ Closes p context log n) := by
  rcases Task.ends_call_bind.mp h with ⟨e, s, hupload, rfl, rfl⟩ | ⟨_, s, hupload, h⟩
  · exact ⟨_, .upload hupload, .refused _ _ _, .inl ⟨⟨e, rfl⟩, _, rfl, rfl⟩⟩
  have huploaded := LedgerLog.upload hupload
  rw [uploads]
  match hfailed : failedLinesAttachment context.journalId context.lines with
  | none =>
    rw [hfailed] at h
    replace h := (Task.ends_bind_of_ends (Task.ends_pure.mpr ⟨rfl, rfl⟩)).mp h
    obtain ⟨log, hlog, hends, hclosed⟩ := closeUpload_ends harchive h
    refine ⟨_, huploaded.append hlog, .cons nofun hends, hclosed.imp ?_ ?_⟩
    · exact fun ⟨he, hsent⟩ => ⟨he, .of_silent rfl hsent⟩
    · exact fun ⟨hr, hsent⟩ => ⟨hr, _, .of_silent rfl hsent, closes_clean hfailed⟩
  | some attachment =>
    rw [hfailed] at h
    replace h : (some <$> Task.call (.attach context.journalId attachment)
        (c.attach context.journalId attachment) >>= closeUpload c p context).Ends _ r w' := h
    rw [map_eq_pure_bind, bind_assoc] at h
    rcases Task.ends_call_bind.mp h with ⟨e, s', hattach, rfl, rfl⟩ | ⟨attachmentId, s', hattach, h⟩
    · exact ⟨_, huploaded.append (.attach hattach), .cons nofun (.refused _ _ _),
        .inl ⟨⟨e, rfl⟩, _, List.append_assoc .., rfl⟩⟩
    replace h := (Task.ends_bind_of_ends (Task.ends_pure.mpr ⟨rfl, rfl⟩)).mp h
    obtain ⟨log, hlog, hends, hclosed⟩ := closeUpload_ends harchive h
    refine ⟨_, huploaded.append ((LedgerLog.attach hattach).append hlog), .cons nofun (.cons nofun hends),
      hclosed.imp ?_ ?_⟩
    · exact fun ⟨he, hsent⟩ => ⟨he, .of_silent rfl (.of_silent rfl hsent)⟩
    · refine fun ⟨hr, hsent⟩ => ⟨hr, _, .of_silent rfl (.of_silent rfl hsent), closes_withErrors hfailed ?_⟩
      exact List.mem_cons_of_mem _ List.mem_cons_self

/-- How far an authorization comes before anything is uploaded. -/
inductive Course where
  | unopened (e : Failure)
  | unlisted (journalId : String) (e : Failure)
  | withoutAgreements (journalId : String)
  | withoutLines (journalId : String) (results : List AgreementResult)
  | gathered (context : AuthorizationContext) (results : List AgreementResult)
    (archive : Attachment FileContent)

namespace Course

/-- The journal that was found or created. -/
def journalId? : Course → Option String
  | unopened _ => none
  | unlisted journalId _ => some journalId
  | withoutAgreements journalId => some journalId
  | withoutLines journalId _ => some journalId
  | gathered context _ _ => some context.journalId

/-- What is then uploaded. -/
def uploads (p : Plan) : Course → List Call
  | gathered context _ archive => Generator.uploads p context archive
  | _ => []

/-- What the operators are told of agreements and subscriptions that fail. -/
def told : Course → List Notice
  | withoutLines _ results => results.flatMap (·.notices)
  | gathered _ results _ => results.flatMap (·.notices)
  | _ => []

end Course

/-- The agreements of an authorization are listed and gone over, once its journal is found or created. -/
inductive Bills (c : Collaborators σ) (p : Plan) (a : Authorization) (journalId : String) (w : World σ) :
    Course → World σ → Prop
  | unlisted {e : Failure} {s : σ} : c.agreements (p.agreementsQuery a.id) w.state = (.error e, s) →
    Bills c p a journalId w (.unlisted journalId e) ⟨s, w.calls ++ [.agreements (p.agreementsQuery a.id)]⟩
  | withoutAgreements {s : σ} : c.agreements (p.agreementsQuery a.id) w.state = (.ok [], s) →
    Bills c p a journalId w (.withoutAgreements journalId)
      ⟨s, w.calls ++ [.agreements (p.agreementsQuery a.id)]⟩
  | withoutLines {agreements : List Agreement} {results : List AgreementResult}
    {context : AuthorizationContext} {s : σ} {w' : World σ} :
    c.agreements (p.agreementsQuery a.id) w.state = (.ok agreements, s) → agreements ≠ [] →
    InTurn (AgreementRuns c p a.currency) agreements
      ⟨s, w.calls ++ [.agreements (p.agreementsQuery a.id)]⟩ results w' →
    context = results.foldl AgreementResult.addTo { authorization := a, journalId } → context.lines = [] →
    Bills c p a journalId w (.withoutLines journalId results) w'
  | gathered {agreements : List Agreement} {results : List AgreementResult}
    {context : AuthorizationContext} {archive : Attachment FileContent} {s : σ} {w' : World σ} :
    c.agreements (p.agreementsQuery a.id) w.state = (.ok agreements, s) → agreements ≠ [] →
    InTurn (AgreementRuns c p a.currency) agreements
      ⟨s, w.calls ++ [.agreements (p.agreementsQuery a.id)]⟩ results w' →
    context = results.foldl AgreementResult.addTo { authorization := a, journalId } → context.lines ≠ [] →
    reportsAttachment context.journalId context.reports = .ok archive →
    Bills c p a journalId w (.gathered context results archive) w'

theorem Bills.journalId? {journalId : String} {course : Course} (h : Bills c p a journalId w course w') :
    course.journalId? = some journalId := by
  cases h with
  | gathered _ _ _ hcontext _ _ =>
    rw [hcontext]
    exact congrArg some (AgreementResult.gains_foldl_addTo _ _).journalId
  | _ => rfl

/-- The course that an authorization takes from the world `w`, and the world in which it is taken. -/
inductive Takes (c : Collaborators σ) (p : Plan) (a : Authorization) (w : World σ) :
    Course → World σ → Prop
  | unopened {e : Failure} {w' : World σ} : (findOrCreateJournal c p a.id).Ends w (.error e) w' →
    Takes c p a w (.unopened e) w'
  | opened {journalId : String} {course : Course} {w₁ w' : World σ} :
    (findOrCreateJournal c p a.id).Ends w (.ok journalId) w₁ → Bills c p a journalId w₁ course w' →
    Takes c p a w course w'

/-- What comes of a course in the end, and what is told once it is taken. -/
inductive Settles (p : Plan) (log : List (Call × LedgerAnswer)) :
    Course → Except Failure AuthorizationResult → List Notice → Prop
  | unopened {e : Failure} : (∀ e', CallFailed log e' ↔ e' = e) → Settles p log (.unopened e) (.error e) []
  | unlisted {journalId : String} {e : Failure} : (∀ e', ¬ CallFailed log e') →
    Settles p log (.unlisted journalId e) (.error e) []
  | withoutAgreements {journalId : String} : (∀ e', ¬ CallFailed log e') →
    Settles p log (.withoutAgreements journalId) (.ok (.noAgreements journalId)) []
  | withoutLines {journalId : String} {results : List AgreementResult} : (∀ e', ¬ CallFailed log e') →
    Settles p log (.withoutLines journalId results) (.ok (.noLines journalId)) []
  | interrupted {context : AuthorizationContext} {results : List AgreementResult}
    {archive : Attachment FileContent} {e : Failure} : (∀ e', CallFailed log e' ↔ e' = e) →
    Settles p log (.gathered context results archive) (.error e) []
  | uploaded {context : AuthorizationContext} {results : List AgreementResult}
    {archive : Attachment FileContent} {n : Notice} : (∀ e', ¬ CallFailed log e') → Closes p context log n →
    Settles p log (.gathered context results archive)
      (.ok (.uploaded context.journalId context.lines.length context.invalidLines.length)) [n]

theorem Closes.mono {log' : List (Call × LedgerAnswer)} {n : Notice} (h : Closes p context log n)
    (hsub : ∀ entry ∈ log, entry ∈ log') : Closes p context log' n where
  clean := h.clean
  withErrors hinvalid := by
    obtain ⟨hkind, attachment, attachmentId, hattachment, hmem, hbutton⟩ := h.withErrors hinvalid
    exact ⟨hkind, attachment, attachmentId, hattachment, hsub _ hmem, hbutton⟩

/-- Calls that went well before change nothing. -/
theorem Settles.prepend {before : List (Call × LedgerAnswer)} {course : Course}
    {r : Except Failure AuthorizationResult} {notices : List Notice} (hbefore : ∀ e, ¬ CallFailed before e)
    (h : Settles p log course r notices) : Settles p (before ++ log) course r notices := by
  have hfailed : ∀ e, CallFailed (before ++ log) e ↔ CallFailed log e := fun e =>
    callFailed_append.trans (or_iff_right (hbefore e))
  cases h with
  | unopened he => exact .unopened fun e' => (hfailed e').trans (he e')
  | unlisted hok => exact .unlisted fun e' => (hfailed e').not.mpr (hok e')
  | withoutAgreements hok => exact .withoutAgreements fun e' => (hfailed e').not.mpr (hok e')
  | withoutLines hok => exact .withoutLines fun e' => (hfailed e').not.mpr (hok e')
  | interrupted he => exact .interrupted fun e' => (hfailed e').trans (he e')
  | uploaded hok hcloses =>
    exact .uploaded (fun e' => (hfailed e').not.mpr (hok e'))
      (hcloses.mono fun _ hmem => List.mem_append_right _ hmem)

theorem billInto_ends {journalId : String} {r : Except Failure AuthorizationResult}
    (h : (billInto c p a journalId).Ends w r w') :
    ∃ course w₁ log notices, Bills c p a journalId w course w₁ ∧ LedgerLog c w log w' ∧
      CutAtFailure (course.uploads p) log ∧ NoticesSent w w₁ course.told ∧
      Settles p log course r notices ∧ NoticesSent w₁ w' notices := by
  have hnone : ∀ e : Failure, ¬ CallFailed [] e := fun e ⟨_, hmem⟩ => nomatch hmem
  rcases Task.ends_call_bind.mp h with ⟨e, s, hlist, rfl, rfl⟩ | ⟨agreements, s, hlist, h⟩
  · exact ⟨_, _, [], [], .unlisted hlist, .agreements hlist, .nil, .of_silent rfl (.refl _), .unlisted hnone,
      .refl _⟩
  by_cases hempty : agreements = []
  · subst hempty
    obtain ⟨rfl, rfl⟩ := Task.ends_pure.mp h
    exact ⟨_, _, [], [], .withoutAgreements hlist, .agreements hlist, .nil, .of_silent rfl (.refl _),
      .withoutAgreements hnone, .refl _⟩
  rw [if_neg (mt List.isEmpty_iff.mp hempty)] at h
  obtain ⟨context, w₁, hfold, h⟩ := Task.ends_liftM_bind.mp h
  obtain ⟨results, hturns, hcontext⟩ := foldlM_addAgreement_agreementRuns hfold
  have hlog : LedgerLog c w [] w₁ := (LedgerLog.agreements hlist).append (foldlM_addAgreement_unlogged hfold)
  have htold : NoticesSent w w₁ (results.flatMap (·.notices)) :=
    .of_silent rfl (hturns.noticesSent AgreementRuns.noticesSent)
  by_cases hlines : context.lines = []
  · rw [if_pos (List.isEmpty_iff.mpr hlines)] at h
    obtain ⟨rfl, rfl⟩ := Task.ends_pure.mp h
    exact ⟨_, _, [], [], .withoutLines hlist hempty hturns hcontext hlines, hlog, .nil, htold,
      .withoutLines hnone, .refl _⟩
  rw [if_neg (mt List.isEmpty_iff.mp hlines)] at h
  have hstandard : context.reports.Standard := by
    rw [hcontext, foldl_addTo_gathered]
    exact (OrganizationReports.Gathers.gathered _ _ _).accounts.standard
  obtain ⟨archive, harchive, -⟩ := reportsAttachment_eq_ok hstandard context.journalId
  obtain ⟨log, huploads, hends, hresult⟩ := uploadJournal_ends harchive h
  have hbills := Bills.gathered hlist hempty hturns hcontext hlines harchive
  refine ⟨.gathered context results archive, w₁, log, ?_⟩
  rcases hresult with ⟨⟨e, rfl⟩, hsent⟩ | ⟨rfl, n, hsent, hcloses⟩
  · refine ⟨[], hbills, hlog.append huploads, hends.cut, htold, .interrupted fun e' => ?_, hsent⟩
    rw [hends.failed e', Except.error.injEq, eq_comm]
  · exact ⟨[n], hbills, hlog.append huploads, hends.cut, htold, .uploaded hends.not_callFailed hcloses, hsent⟩

theorem generateAuthorization_ends {r : Except Failure AuthorizationResult}
    (h : (generateAuthorization c p a).Ends w r w') :
    ∃ course w₁ log notices, Takes c p a w course w₁ ∧ LedgerLog c w log w' ∧
      CutAtFailure (opening p a.id log ++ course.uploads p) log ∧
      (∀ journalId ∈ course.journalId?, IsOpened log journalId) ∧ NoticesSent w w₁ course.told ∧
      Settles p log course r notices ∧ NoticesSent w₁ w' notices := by
  rw [generateAuthorization_eq] at h
  rcases Task.ends_bind.mp h with ⟨e, hopen, rfl⟩ | ⟨journalId, w₁, hopen, h⟩
  · obtain ⟨log, hlog, hends, -, hsent⟩ := (journalOpens_of_ends hopen).logged
    have hlast := hends []
    rw [List.append_nil] at hlast
    refine ⟨.unopened e, w', log, [], .unopened hopen, hlog, ?_, nofun, hsent, .unopened fun e' => ?_, .refl _⟩
    · show CutAtFailure (opening p a.id log ++ []) log
      rw [List.append_nil]
      exact hlast.cut
    · rw [hlast.failed e', Except.error.injEq, eq_comm]
  · obtain ⟨before, hbefore, hends, hopened, hsilent⟩ := (journalOpens_of_ends hopen).logged
    obtain ⟨course, w₂, log, notices, hbills, hlog, hcut, htold, hsettles, hsent⟩ := billInto_ends h
    have hok := (hends log).not_callFailed
    refine ⟨course, w₂, before ++ log, notices, .opened hopen hbills, hbefore.append hlog,
      (hends log).cut.append hok hcut, fun id hid => ?_, hsilent.append htold, hsettles.prepend hok, hsent⟩
    cases hbills.journalId?.symm.trans hid
    exact (hopened journalId rfl).mono fun _ hmem => List.mem_append_left _ hmem

/-- The outcome of an authorization; a failure is its text. -/
def outcomeOf : Except Failure AuthorizationResult → AuthorizationResult
  | .ok result => result
  | .error e => .failed e.message

namespace Settles
variable {course : Course} {r : Except Failure AuthorizationResult} {notices : List Notice} {journalId : String}

end Settles

/-- What is told in the end: of an authorization that fails, its failure. -/
def toldOf (a : Authorization) : Except Failure AuthorizationResult → List Notice
  | .ok _ => []
  | .error e => [authorizationNotice a e]

theorem conclude_ends {r : Except Failure AuthorizationResult} {y : AuthorizationSummary}
    (h : (conclude c a r).Ends w y w') :
    y = ⟨a.id, outcomeOf r⟩ ∧ LedgerLog c w [] w' ∧ NoticesSent w w' (toldOf a r) := by
  cases r with
  | ok result =>
    obtain ⟨rfl, rfl⟩ := Run.ends_pure.mp h
    exact ⟨rfl, .nil _, .refl _⟩
  | error e =>
    obtain ⟨_, w₁, htell, h⟩ := Run.ends_bind.mp h
    obtain ⟨rfl, rfl⟩ := Run.ends_pure.mp h
    refine ⟨rfl, ?_, .of_tell htell⟩
    rw [Run.ends_tell.mp htell]
    exact .of_other (.notify _)

/-- An authorization that comes to an end has taken a course and is settled by it. -/
theorem summarize_settles {y : AuthorizationSummary} (h : (summarize c p a).Ends w y w') :
    ∃ r course w₁ log notices, y = ⟨a.id, outcomeOf r⟩ ∧ Takes c p a w course w₁ ∧ LedgerLog c w log w' ∧
      CutAtFailure (opening p a.id log ++ course.uploads p) log ∧
      (∀ journalId ∈ course.journalId?, IsOpened log journalId) ∧ NoticesSent w w₁ course.told ∧
      Settles p log course r notices ∧ NoticesSent w₁ w' (notices ++ toldOf a r) := by
  rw [summarize_eq] at h
  obtain ⟨r, w₂, hgenerate, hconclude⟩ := Run.ends_bind.mp h
  obtain ⟨course, w₁, log, notices, htakes, hlog, hcut, hopened, htold, hsettles, hsent⟩ :=
    generateAuthorization_ends hgenerate
  obtain ⟨hy, hsilent, hclosing⟩ := conclude_ends hconclude
  have hlogged := hlog.append hsilent
  rw [List.append_nil] at hlogged
  exact ⟨r, course, w₁, log, notices, hy, htakes, hlogged, hcut, hopened, htold, hsettles, hsent.append hclosing⟩

end Generator

namespace Generator

end Generator

end CostJournal
