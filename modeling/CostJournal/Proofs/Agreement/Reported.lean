import CostJournal.Outcome
import CostJournal.Proofs.SortedMap
import Mathlib.Data.List.Induction

/-!
# What passes and agreements leave

Every pass leaves its lines and the two reports of its account, and every agreement the marketplace report and the
invoices of its paying account. An authorization that takes them in one after the other has all the lines in that
order, and of several reports under one key the last (`AuthorizationContext.Gains`): nothing else is added, and
nothing else is lost.
-/

namespace CostJournal

/-- The last element with that key. -/
def lastWith? {α : Type} (key : α → String) (xs : List α) (k : String) : Option α :=
  xs.reverse.find? fun x => key x == k

section
variable {α : Type} {key : α → String}

theorem lastWith?_append (xs later : List α) (k : String) :
    lastWith? key (xs ++ later) k = (lastWith? key later k).or (lastWith? key xs k) := by
  rw [lastWith?, List.reverse_append, List.find?_append]
  rfl

theorem lastWith?_singleton (x : α) (k : String) :
    lastWith? key [x] k = if k = key x then some x else none := by
  rw [lastWith?, List.reverse_singleton, List.find?_singleton]
  exact if_congr (beq_iff_eq.trans eq_comm) rfl rfl

theorem key_of_lastWith? {xs : List α} {k : String} {x : α} (h : lastWith? key xs k = some x) : key x = k :=
  eq_of_beq (List.find?_some (p := fun x => key x == k) h)

end

namespace SortedMap
variable {α β : Type} {m m' : SortedMap β} {key : α → String} {value : α → β} {xs later : List α}

/-- Under each key is the value of the last element with that key. -/
def HoldsLast (m : SortedMap β) (key : α → String) (value : α → β) (xs : List α) : Prop :=
  ∀ k, m.get? k = (lastWith? key xs k).map value

namespace HoldsLast

theorem empty : (empty : SortedMap β).HoldsLast key value [] := fun _ => rfl

theorem insert (h : m.HoldsLast key value xs) (x : α) :
    (m.insert (key x) (value x)).HoldsLast key value (xs ++ [x]) := by
  intro k
  rw [get?_insert, lastWith?_append, lastWith?_singleton, h k]
  by_cases heq : k = key x
  · rw [if_pos heq, if_pos heq]
    rfl
  · rw [if_neg heq, if_neg heq]
    rfl

theorem mem_entries (h : m.HoldsLast key value xs) {e : String × β} :
    e ∈ m.entries ↔ ∃ x, lastWith? key xs (key x) = some x ∧ e = (key x, value x) := by
  obtain ⟨k, b⟩ := e
  rw [SortedMap.mem_entries, h k, Option.map_eq_some_iff]
  constructor
  · rintro ⟨x, hx, rfl⟩
    obtain rfl := key_of_lastWith? hx
    exact ⟨x, hx, rfl⟩
  · rintro ⟨x, hx, heq⟩
    obtain ⟨rfl, rfl⟩ := Prod.mk.inj heq
    exact ⟨x, hx, rfl⟩

/-- What a map has of the elements before stays where the later ones have nothing. -/
theorem get?_insertAll {k : String} {held? : Option β} (hlater : m'.HoldsLast key value later)
    (h : m.get? k = ((lastWith? key xs k).map value).or held?) :
    (m.insertAll m'.entries).get? k = ((lastWith? key (xs ++ later) k).map value).or held? := by
  rw [get?_insertAll_entries, hlater k, h, lastWith?_append, Option.map_or, Option.or_assoc]

end HoldsLast

end SortedMap

/-- A pass over an account: its lines, and the reports that the account was reconciled with. -/
structure ReportedPass where
  accountId : String
  lines : List JournalLine
  recordTypes : Report
  invoiceEntities : Report

namespace ReportedPass
variable {pass : ReportedPass}

def outcome (p : ReportedPass) : AccountOutcome :=
  ({ lines := p.lines } : AccountOutcome).addReport .recordTypes p.recordTypes
    |>.addReport .invoiceEntities p.invoiceEntities

/-- The reports that the pass leaves. -/
def reports (p : ReportedPass) : SortedMap Report := p.outcome.reports

/-- The reports of an account after a pass over it: two are those of the pass, and the others stay. -/
structure Replaces (pass : ReportedPass) (held? : Option (SortedMap Report))
    (reports : SortedMap Report) : Prop where
  recordTypes : reports.get? AccountReport.recordTypes.name = some pass.recordTypes
  invoiceEntities : reports.get? AccountReport.invoiceEntities.name = some pass.invoiceEntities
  others : ∀ name, (∀ kind : AccountReport, name ≠ kind.name) → reports.get? name = held?.bind (·.get? name)

theorem get?_reports (pass : ReportedPass) (name : String) : pass.reports.get? name =
    if name = AccountReport.invoiceEntities.name then some pass.invoiceEntities
    else if name = AccountReport.recordTypes.name then some pass.recordTypes else none := by
  rw [reports, outcome, AccountOutcome.addReport, SortedMap.get?_insert, AccountOutcome.addReport,
    SortedMap.get?_insert]
  rfl

/-- What was held before need not be the reports of an account for these to replace it. -/
theorem replaces_insertAll {pass : ReportedPass} {held? before? : Option (SortedMap Report)}
    (h : ∀ name, (∀ kind : AccountReport, name ≠ kind.name) →
      (held?.bind (·.get? name)) = before?.bind (·.get? name)) :
    pass.Replaces before? ((held?.getD .empty).insertAll pass.reports.entries) where
  recordTypes := by
    have hne : AccountReport.recordTypes.name ≠ AccountReport.invoiceEntities.name := by decide
    rw [SortedMap.get?_insertAll_entries, get?_reports, if_neg hne, if_pos rfl, Option.some_or]
  invoiceEntities := by rw [SortedMap.get?_insertAll_entries, get?_reports, if_pos rfl, Option.some_or]
  others name hname := by
    rw [SortedMap.get?_insertAll_entries, get?_reports, if_neg (hname _), if_neg (hname _), Option.none_or,
      ← h name hname]
    cases held? <;> rfl

theorem Replaces.eq_reports {reports : SortedMap Report} (h : pass.Replaces none reports) :
    reports = pass.reports := by
  refine SortedMap.eq_of_get?_eq fun name => ?_
  rw [get?_reports]
  split
  next heq => rw [heq, h.invoiceEntities]
  next hentities =>
    split
    next heq => rw [heq, h.recordTypes]
    next hcosts =>
      refine h.others name fun kind => ?_
      cases kind
      · exact hcosts
      · exact hentities

/-- A later pass over the account replaces both reports of an earlier one. -/
theorem insertAll_reports (pass : ReportedPass) (earlier? : Option ReportedPass) :
    ((earlier?.map reports).getD SortedMap.empty).insertAll pass.reports.entries = pass.reports := by
  refine (replaces_insertAll fun name hname => ?_).eq_reports
  cases earlier? with
  | none => rfl
  | some earlier =>
    show earlier.reports.get? name = none
    rw [get?_reports, if_neg (hname _), if_neg (hname _)]

end ReportedPass

/-- Adds passes in their order. -/
def AgreementOutcome.addPasses (o : AgreementOutcome) (passes : List ReportedPass) : AgreementOutcome :=
  passes.foldl (fun o p => o.addAccount p.accountId p.outcome) o

/-- Passes leave the reports of the paying accounts as they are. -/
theorem AgreementOutcome.reports_addPasses (o : AgreementOutcome) (passes : List ReportedPass) :
    (o.addPasses passes).reports = { o.reports with accounts := (o.addPasses passes).reports.accounts } := by
  refine List.foldlRecOn (motive := fun o' : AgreementOutcome =>
    o'.reports = { o.reports with accounts := o'.reports.accounts }) passes _ rfl fun o' ho' p _ => ?_
  show o'.reports.addAccount _ _ = _
  rw [ho']
  rfl

/-- An agreement that was reconciled: its paying account with the reports on that, and its passes in order. -/
structure ReportedAgreement where
  mpaId : String
  marketplace : Report
  invoices : OrganizationInvoices
  passes : List ReportedPass

def ReportedAgreement.outcome (a : ReportedAgreement) : AgreementOutcome :=
  let o := AgreementOutcome.addPasses {} a.passes
  { o with reports := { o.reports with
    marketplaceUsage := o.reports.marketplaceUsage.insert a.mpaId a.marketplace
    organizationInvoices := o.reports.organizationInvoices.insert a.mpaId a.invoices } }

theorem AgreementOutcome.lines_addPasses (o : AgreementOutcome) (passes : List ReportedPass) :
    (o.addPasses passes).lines = o.lines ++ passes.flatMap (·.lines) := by
  induction passes generalizing o with
  | nil => exact (List.append_nil _).symm
  | cons p passes ih =>
    rw [List.flatMap_cons, ← List.append_assoc]
    exact ih (o.addAccount p.accountId p.outcome)

theorem ReportedAgreement.lines_outcome (a : ReportedAgreement) :
    a.outcome.lines = a.passes.flatMap (·.lines) :=
  AgreementOutcome.lines_addPasses {} a.passes

namespace OrganizationReports
variable {r : OrganizationReports} {passes : List ReportedPass}

/-- Only the reports of accounts change, each by what is put beside it. -/
theorem foldl_addAccount (entries : List (String × SortedMap Report)) (r : OrganizationReports) :
    entries.foldl (fun r e => r.addAccount e.1 e.2) r =
      { r with
        accounts := entries.foldl
          (fun m e => m.insert e.1 (((m.get? e.1).getD SortedMap.empty).insertAll e.2.entries)) r.accounts } := by
  induction entries generalizing r with
  | nil => rfl
  | cons e entries ih =>
    rw [List.foldl_cons, ih]
    rfl

theorem get?_accounts_merge (r other : OrganizationReports) (accountId : String) :
    (r.merge other).accounts.get? accountId =
      ((other.accounts.get? accountId).map fun reports =>
        ((r.accounts.get? accountId).getD SortedMap.empty).insertAll reports.entries).or
          (r.accounts.get? accountId) := by
  rw [merge, foldl_addAccount]
  exact SortedMap.get?_foldl_insert (fun held reports => (held.getD SortedMap.empty).insertAll reports.entries)
    other.accounts.nodup_keys r.accounts accountId

/-- Each account has the reports of the last pass over it, and an account without a pass has none. -/
def HoldsPasses (r : OrganizationReports) (passes : List ReportedPass) : Prop :=
  r.accounts.HoldsLast ReportedPass.accountId ReportedPass.reports passes

namespace HoldsPasses

theorem addAccount (h : r.HoldsPasses passes) (p : ReportedPass) :
    (r.addAccount p.accountId p.reports).HoldsPasses (passes ++ [p]) := by
  have hreports : ((r.accounts.get? p.accountId).getD .empty).insertAll p.reports.entries = p.reports := by
    rw [h p.accountId, p.insertAll_reports]
  show (r.accounts.insert p.accountId (SortedMap.insertAll _ _)).HoldsLast _ _ _
  rw [hreports]
  exact SortedMap.HoldsLast.insert h p

theorem addPasses {o : AgreementOutcome} (h : o.reports.HoldsPasses passes) (later : List ReportedPass) :
    (o.addPasses later).reports.HoldsPasses (passes ++ later) := by
  induction later generalizing o passes with
  | nil => rwa [List.append_nil]
  | cons p later ih =>
    rw [← List.singleton_append, ← List.append_assoc]
    exact ih (h.addAccount p)

end HoldsPasses

end OrganizationReports

namespace ReportedAgreement

theorem holdsPasses_outcome (a : ReportedAgreement) : a.outcome.reports.HoldsPasses a.passes := by
  have hnone : ({} : AgreementOutcome).reports.HoldsPasses [] := SortedMap.HoldsLast.empty
  exact hnone.addPasses a.passes

theorem marketplaceUsage_outcome (a : ReportedAgreement) :
    a.outcome.reports.marketplaceUsage.HoldsLast ReportedAgreement.mpaId (·.marketplace) [a] := by
  rw [outcome, AgreementOutcome.reports_addPasses]
  exact SortedMap.HoldsLast.insert .empty a

theorem organizationInvoices_outcome (a : ReportedAgreement) :
    a.outcome.reports.organizationInvoices.HoldsLast ReportedAgreement.mpaId (·.invoices) [a] := by
  rw [outcome, AgreementOutcome.reports_addPasses]
  exact SortedMap.HoldsLast.insert .empty a

end ReportedAgreement

namespace AuthorizationContext
variable {before context : AuthorizationContext} {agreements : List ReportedAgreement}

/-- The context `after` has what `before` has, then the lines of the agreements and of their passes in their
order, and under each key the report of the last pass or agreement that has one, or else that of `before`. -/
structure Gains (before : AuthorizationContext) (agreements : List ReportedAgreement)
    (after : AuthorizationContext) : Prop where
  authorization : after.authorization = before.authorization
  journalId : after.journalId = before.journalId
  lines : after.lines = before.lines ++ (agreements.flatMap (·.passes)).flatMap (·.lines)
  unvisited : ∀ accountId, lastWith? ReportedPass.accountId (agreements.flatMap (·.passes)) accountId = none →
    after.reports.accounts.get? accountId = before.reports.accounts.get? accountId
  visited : ∀ accountId pass,
    lastWith? ReportedPass.accountId (agreements.flatMap (·.passes)) accountId = some pass →
      ∃ reports, after.reports.accounts.get? accountId = some reports ∧
        pass.Replaces (before.reports.accounts.get? accountId) reports
  marketplaceUsage : ∀ mpaId, after.reports.marketplaceUsage.get? mpaId =
    ((lastWith? ReportedAgreement.mpaId agreements mpaId).map (·.marketplace)).or
      (before.reports.marketplaceUsage.get? mpaId)
  organizationInvoices : ∀ mpaId, after.reports.organizationInvoices.get? mpaId =
    ((lastWith? ReportedAgreement.mpaId agreements mpaId).map (·.invoices)).or
      (before.reports.organizationInvoices.get? mpaId)

namespace Gains

theorem refl (before : AuthorizationContext) : before.Gains [] before where
  authorization := rfl
  journalId := rfl
  lines := (List.append_nil _).symm
  unvisited _ _ := rfl
  visited _ _ h := nomatch h
  marketplaceUsage _ := rfl
  organizationInvoices _ := rfl

theorem others (h : before.Gains agreements context) (accountId : String) {name : String}
    (hname : ∀ kind : AccountReport, name ≠ kind.name) :
    (context.reports.accounts.get? accountId).bind (·.get? name) =
      (before.reports.accounts.get? accountId).bind (·.get? name) := by
  match hlast : lastWith? ReportedPass.accountId (agreements.flatMap (·.passes)) accountId with
  | none => rw [h.unvisited accountId hlast]
  | some pass =>
    obtain ⟨reports, hreports, hreplaces⟩ := h.visited accountId pass hlast
    rw [hreports]
    exact hreplaces.others name hname

theorem absorb (h : before.Gains agreements context) (a : ReportedAgreement) :
    before.Gains (agreements ++ [a]) (context.absorb a.outcome) := by
  have hpasses : (agreements ++ [a]).flatMap (·.passes) = agreements.flatMap (·.passes) ++ a.passes := by
    rw [List.flatMap_append, List.flatMap_singleton]
  have hmerged : ∀ accountId, (context.absorb a.outcome).reports.accounts.get? accountId =
      ((lastWith? ReportedPass.accountId a.passes accountId).map fun pass =>
        ((context.reports.accounts.get? accountId).getD .empty).insertAll pass.reports.entries).or
          (context.reports.accounts.get? accountId) := by
    intro accountId
    rw [AuthorizationContext.absorb, OrganizationReports.get?_accounts_merge, a.holdsPasses_outcome accountId,
      Option.map_map]
    rfl
  refine ⟨h.authorization, h.journalId, ?_, fun accountId hlast => ?_, fun accountId pass hlast => ?_,
    fun mpaId => ?_, fun mpaId => ?_⟩
  · rw [hpasses, List.flatMap_append, ← List.append_assoc, ← h.lines]
    show context.lines ++ a.outcome.lines = _
    rw [a.lines_outcome]
  · rw [hpasses, lastWith?_append, Option.or_eq_none_iff] at hlast
    rw [hmerged, hlast.1, Option.map_none, Option.none_or, h.unvisited accountId hlast.2]
  · rw [hpasses, lastWith?_append] at hlast
    rw [hmerged]
    match hown : lastWith? ReportedPass.accountId a.passes accountId with
    | some own =>
      rw [hown, Option.some_or] at hlast
      cases hlast
      exact ⟨_, rfl, ReportedPass.replaces_insertAll fun _ hname => h.others accountId hname⟩
    | none =>
      rw [hown, Option.none_or] at hlast
      exact h.visited accountId pass hlast
  · rw [AuthorizationContext.absorb, OrganizationReports.merge, OrganizationReports.foldl_addAccount]
    exact a.marketplaceUsage_outcome.get?_insertAll (h.marketplaceUsage mpaId)
  · rw [AuthorizationContext.absorb, OrganizationReports.merge, OrganizationReports.foldl_addAccount]
    exact a.organizationInvoices_outcome.get?_insertAll (h.organizationInvoices mpaId)

theorem foldl_absorb (before : AuthorizationContext) (agreements : List ReportedAgreement) :
    before.Gains agreements (agreements.foldl (fun context a => context.absorb a.outcome) before) := by
  induction agreements using List.reverseRecOn with
  | nil => exact refl before
  | append_singleton agreements a ih =>
    rw [List.foldl_concat]
    exact ih.absorb a

end Gains

end AuthorizationContext

end CostJournal
