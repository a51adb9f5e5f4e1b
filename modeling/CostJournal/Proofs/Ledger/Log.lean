import CostJournal.Proofs.Authorization.Stages

/-!
# The calls to the ledger with their answers

`LedgerLog c w log w'` says that `log` is what the ledger was called for, and answered, between two
worlds, and `LogEnds calls log r` that it was called for `calls`, up to the first call that fails: then
that failure is what `r` ends with. Going over agreements calls for nothing (`addAgreement_unlogged`).
-/

namespace CostJournal

/-- What the ledger answers to a call. -/
inductive LedgerAnswer where
  | journals (journals : List Journal)
  | created (journal : Journal)
  | uploaded
  | attached (attachmentId : String)
  | failed (error : Failure)

def LedgerAnswer.of {α : Type} (answer : α → LedgerAnswer) : Except Failure α → LedgerAnswer
  | .ok a => answer a
  | .error e => .failed e

def Call.isToLedger : Call → Bool
  | .journals _ | .createJournal _ | .upload .. | .attach .. => true
  | _ => false

namespace Collaborators
variable {σ : Type}

/-- The ledger's answer to a call and the state after it, if the call is one to the ledger. -/
def ledger? (c : Collaborators σ) : Call → σ → Option (LedgerAnswer × σ)
  | .journals query, s => some ((c.journals query s).map (.of .journals) id)
  | .createJournal n, s => some ((c.createJournal n s).map (.of .created) id)
  | .upload journalId content filename, s =>
    some ((c.upload journalId content filename s).map (.of fun _ => .uploaded) id)
  | .attach journalId attachment, s => some ((c.attach journalId attachment s).map (.of .attached) id)
  | _, _ => none

/-- The state after a call to one of the other systems. -/
inductive OthersAnswer (c : Collaborators σ) (s : σ) : Call → σ → Prop
  | authorizations (query : String) : OthersAnswer c s (.authorizations query) (c.authorizations query s).2
  | agreements (query : String) : OthersAnswer c s (.agreements query) (c.agreements query s).2
  | connect (mpaId : String) : OthersAnswer c s (.connect mpaId) (c.connect mpaId s).2
  | costAndUsage {mpaId : String} {connected : σ} {provider : ReportProvider σ} (query : CostQuery) :
    (c.connect mpaId connected).1 = .ok provider →
    OthersAnswer c s (.costAndUsage query) (provider.costAndUsage query s).2
  | invoiceSummaries {mpaId : String} {connected : σ} {provider : ReportProvider σ} (accountId : String)
    (period : Period) : (c.connect mpaId connected).1 = .ok provider →
    OthersAnswer c s (.invoiceSummaries accountId period) (provider.invoiceSummaries accountId period s).2
  | notify (notice : Notice) : OthersAnswer c s (.notify notice) (c.notify notice s).2

end Collaborators

variable {σ α β : Type} {c : Collaborators σ} {w w₁ w' : World σ} {log log' : List (Call × LedgerAnswer)}

/-- The calls between two worlds, each answered as the systems do, of which those to the ledger are in
the log with their answers. -/
inductive LedgerLog (c : Collaborators σ) : World σ → List (Call × LedgerAnswer) → World σ → Prop
  | nil (w : World σ) : LedgerLog c w [] w
  | ledger {w w' : World σ} {call : Call} {answer : LedgerAnswer} {s : σ} {log : List (Call × LedgerAnswer)} :
    c.ledger? call w.state = some (answer, s) → LedgerLog c ⟨s, w.calls ++ [call]⟩ log w' →
    LedgerLog c w ((call, answer) :: log) w'
  | other {w w' : World σ} {call : Call} {s : σ} {log : List (Call × LedgerAnswer)} :
    c.OthersAnswer w.state call s → LedgerLog c ⟨s, w.calls ++ [call]⟩ log w' → LedgerLog c w log w'

namespace LedgerLog

theorem append (h : LedgerLog c w log w₁) (h' : LedgerLog c w₁ log' w') : LedgerLog c w (log ++ log') w' := by
  induction h with
  | nil w => exact h'
  | ledger hanswer _ ih => exact .ledger hanswer (ih h')
  | other hanswer _ ih => exact .other hanswer (ih h')

theorem of_call {call : Call} {answer : LedgerAnswer} {s : σ} (h : c.ledger? call w.state = some (answer, s)) :
    LedgerLog c w [(call, answer)] ⟨s, w.calls ++ [call]⟩ :=
  .ledger h (.nil _)

theorem journals {query : String} {r : Except Failure (List Journal)} {s : σ}
    (h : c.journals query w.state = (r, s)) :
    LedgerLog c w [(.journals query, .of .journals r)] ⟨s, w.calls ++ [.journals query]⟩ :=
  .of_call (by rw [Collaborators.ledger?, h]; rfl)

theorem createJournal {n : NewJournal} {r : Except Failure Journal} {s : σ}
    (h : c.createJournal n w.state = (r, s)) :
    LedgerLog c w [(.createJournal n, .of .created r)] ⟨s, w.calls ++ [.createJournal n]⟩ :=
  .of_call (by rw [Collaborators.ledger?, h]; rfl)

theorem upload {journalId content filename : String} {r : Except Failure Unit} {s : σ}
    (h : c.upload journalId content filename w.state = (r, s)) :
    LedgerLog c w [(.upload journalId content filename, .of (fun _ => .uploaded) r)]
      ⟨s, w.calls ++ [.upload journalId content filename]⟩ :=
  .of_call (by rw [Collaborators.ledger?, h]; rfl)

theorem attach {journalId : String} {attachment : Attachment FileContent} {r : Except Failure String}
    {s : σ} (h : c.attach journalId attachment w.state = (r, s)) :
    LedgerLog c w [(.attach journalId attachment, .of .attached r)]
      ⟨s, w.calls ++ [.attach journalId attachment]⟩ :=
  .of_call (by rw [Collaborators.ledger?, h]; rfl)

theorem of_other {call : Call} {s : σ} (h : c.OthersAnswer w.state call s) :
    LedgerLog c w [] ⟨s, w.calls ++ [call]⟩ :=
  .other h (.nil _)

theorem agreements {query : String} {r : Except Failure (List Agreement)} {s : σ}
    (h : c.agreements query w.state = (r, s)) : LedgerLog c w [] ⟨s, w.calls ++ [.agreements query]⟩ := by
  have hlog : LedgerLog c w [] ⟨(c.agreements query w.state).2, _⟩ := .of_other (.agreements query)
  rwa [h] at hlog

/-- No call to the ledger is missing from the log. -/
theorem map_fst (h : LedgerLog c w log w') :
    ∃ new, w'.calls = w.calls ++ new ∧ new.filter (·.isToLedger) = log.map (·.1) := by
  induction h with
  | nil w => exact ⟨[], by simp, rfl⟩
  | @ledger _ _ call _ _ _ hanswer _ ih =>
    obtain ⟨new, hcalls, hnew⟩ := ih
    have hto : call.isToLedger := by cases call <;> first | rfl | cases hanswer
    exact ⟨call :: new, by rw [hcalls, List.append_assoc]; rfl, by rw [List.filter_cons_of_pos hto, hnew]; rfl⟩
  | @other _ _ call _ _ hanswer _ ih =>
    obtain ⟨new, hcalls, hnew⟩ := ih
    have hto : ¬ call.isToLedger := by cases hanswer <;> exact Bool.false_ne_true
    exact ⟨call :: new, by rw [hcalls, List.append_assoc]; rfl, by rw [List.filter_cons_of_neg hto, hnew]⟩

end LedgerLog

/-- Between the worlds the ledger is not called. -/
def Unlogged (c : Collaborators σ) (w w' : World σ) : Prop := LedgerLog c w [] w'

instance : IsPreorder (World σ) (Unlogged c) where
  refl w := .nil w
  trans _ _ _ h h' := h.append h'

theorem callsLead_unlogged (c : Collaborators σ) : CallsLead (Unlogged c) c fun _ => False where
  authorizations query _ := .of_other (.authorizations query)
  agreements query _ := .of_other (.agreements query)
  upload _ _ _ _ h := h.elim
  attach _ _ _ h := h.elim
  connect mpaId _ := .of_other (.connect mpaId)
  provider _ _ _ hconnect :=
    ⟨fun query _ => .of_other (.costAndUsage query hconnect),
      fun accountId period _ => .of_other (.invoiceSummaries accountId period hconnect)⟩
  notify notice _ := .of_other (.notify notice)

/-- Agreements are gone over without the ledger. -/
theorem Generator.foldlM_addAgreement_unlogged {p : Plan} {agreements : List Agreement}
    {context context' : AuthorizationContext}
    (h : Run.Ends (agreements.foldlM (addAgreement c p) context) w context' w') : LedgerLog c w [] w' :=
  h.leads (.foldlM (addAgreement_leads (callsLead_unlogged c)) _ _)

/-- The calls, each with its answer, up to the first one that fails. -/
inductive CutAtFailure : List Call → List (Call × LedgerAnswer) → Prop
  | nil : CutAtFailure [] []
  | failed (call : Call) (calls : List Call) (e : Failure) : CutAtFailure (call :: calls) [(call, .failed e)]
  | answered {call : Call} {calls : List Call} {answer : LedgerAnswer} {log : List (Call × LedgerAnswer)} :
    (∀ e, answer ≠ .failed e) → CutAtFailure calls log → CutAtFailure (call :: calls) ((call, answer) :: log)

/-- A call to the ledger failed. -/
def CallFailed (log : List (Call × LedgerAnswer)) (e : Failure) : Prop := ∃ call, (call, .failed e) ∈ log

theorem callFailed_append {e : Failure} :
    CallFailed (log ++ log') e ↔ CallFailed log e ∨ CallFailed log' e := by
  simp only [CallFailed, List.mem_append, exists_or]

/-- The ledger was called for `calls`, and `r` ends with the failure of one of them if there is one. -/
structure LogEnds (calls : List Call) (log : List (Call × LedgerAnswer)) (r : Except Failure α) : Prop where
  cut : CutAtFailure calls log
  failed : ∀ e, CallFailed log e ↔ r = .error e

namespace CutAtFailure
variable {calls calls' : List Call}

theorem append (h : CutAtFailure calls log) (hok : ∀ e, ¬ CallFailed log e) (h' : CutAtFailure calls' log') :
    CutAtFailure (calls ++ calls') (log ++ log') := by
  induction h with
  | nil => exact h'
  | failed call calls e => exact absurd ⟨call, List.mem_singleton_self _⟩ (hok e)
  | answered hanswer _ ih =>
    exact .answered hanswer (ih fun e ⟨call, hmem⟩ => hok e ⟨call, List.mem_cons_of_mem _ hmem⟩)

/-- No call is made that is not due. -/
theorem mem_of_mem_log (h : CutAtFailure calls log) {call : Call} (hcall : call ∈ log.map (·.1)) :
    call ∈ calls := by
  induction h with
  | nil => exact hcall
  | failed _ _ _ =>
    rw [List.map_singleton, List.mem_singleton] at hcall
    exact hcall ▸ List.mem_cons_self
  | answered _ _ ih =>
    rw [List.map_cons] at hcall
    rcases List.mem_cons.mp hcall with rfl | hcall
    · exact List.mem_cons_self
    · exact List.mem_cons_of_mem _ (ih hcall)

/-- All calls are made when none fails. -/
theorem map_fst (h : CutAtFailure calls log) (hok : ∀ e, ¬ CallFailed log e) : log.map (·.1) = calls := by
  induction h with
  | nil => rfl
  | failed call calls e => exact absurd ⟨call, List.mem_singleton_self _⟩ (hok e)
  | answered _ _ ih =>
    rw [List.map_cons, ih fun e ⟨call, hmem⟩ => hok e ⟨call, List.mem_cons_of_mem _ hmem⟩]

end CutAtFailure

namespace LogEnds
variable {calls : List Call} {a : α} {r : Except Failure α}

theorem nil (a : α) : LogEnds [] [] (.ok a) := ⟨.nil, fun e => by simp [CallFailed]⟩

theorem refused (call : Call) (calls : List Call) (e : Failure) :
    LogEnds (call :: calls) [(call, .failed e)] (.error e : Except Failure α) :=
  ⟨.failed call calls e, fun e' => by simp [CallFailed, eq_comm]⟩

theorem cons {call : Call} {answer : LedgerAnswer} (hanswer : ∀ e, answer ≠ .failed e)
    (h : LogEnds calls log r) : LogEnds (call :: calls) ((call, answer) :: log) r := by
  refine ⟨.answered hanswer h.cut, fun e => ?_⟩
  rw [← h.failed e]
  refine exists_congr fun other => ?_
  rw [List.mem_cons, or_iff_right fun heq => hanswer e (Prod.mk.inj heq).2.symm]

theorem not_callFailed (h : LogEnds calls log (.ok a)) (e : Failure) : ¬ CallFailed log e :=
  fun hfailed => nomatch (h.failed e).mp hfailed

end LogEnds

end CostJournal
