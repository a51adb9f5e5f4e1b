import CostJournal.Proofs.Account.Pass
import CostJournal.Proofs.Agreement.Admission
import Mathlib.Data.List.Flatten

/-!
# Costs that an agreement reports twice

A pass looks for unmatched services in its own lines alone. `noDoubleReport_iff` says for which passes
of an agreement that is enough: no two over one account may meet in a service that one of them flags.
Passes over accounts of their own never do (`noDoubleReport_of_nodup`); two subscriptions with one
account can (`not_noDoubleReport_sharedAccount`).
-/

namespace CostJournal

namespace JournalLine

/-- The line flags a service that nothing bills. -/
def isUnmatched (l : JournalLine) : Bool := l.itemSearch.value = itemNotFound

/-- What a line reports on: an account and a service. -/
def subject (l : JournalLine) : String × String := (l.accountId, l.serviceName)

end JournalLine

/-- The subjects of the lines of items. -/
def itemSubjects (lines : List JournalLine) : List (String × String) :=
  (lines.filter (!·.isUnmatched)).map (·.subject)

/-- The subjects of the lines that flag a service. -/
def flaggedSubjects (lines : List JournalLine) : List (String × String) :=
  (lines.filter (·.isUnmatched)).map (·.subject)

/-- No service of an account is flagged twice, or flagged and in the line of an item. -/
structure NoDoubleReport (lines : List JournalLine) : Prop where
  notBoth : ∀ k ∈ flaggedSubjects lines, k ∉ itemSubjects lines
  once : (flaggedSubjects lines).Nodup

instance (lines : List JournalLine) : Decidable (NoDoubleReport lines) :=
  decidable_of_iff ((∀ k ∈ flaggedSubjects lines, k ∉ itemSubjects lines) ∧ (flaggedSubjects lines).Nodup)
    ⟨fun ⟨h, h'⟩ => ⟨h, h'⟩, fun ⟨h, h'⟩ => ⟨h, h'⟩⟩

theorem itemSubjects_flatMap {α : Type} (f : α → List JournalLine) (xs : List α) :
    itemSubjects (xs.flatMap f) = xs.flatMap fun x => itemSubjects (f x) := by
  rw [itemSubjects, List.filter_flatMap, List.map_flatMap]
  rfl

theorem flaggedSubjects_flatMap {α : Type} (f : α → List JournalLine) (xs : List α) :
    flaggedSubjects (xs.flatMap f) = xs.flatMap fun x => flaggedSubjects (f x) := by
  rw [flaggedSubjects, List.filter_flatMap, List.map_flatMap]
  rfl

theorem map_subject {lines : List JournalLine} {accountId : String}
    (h : ∀ l ∈ lines, l.accountId = accountId) :
    lines.map (·.subject) = (lines.map (·.serviceName)).map (accountId, ·) := by
  rw [List.map_map]
  refine List.map_congr_left fun l hl => ?_
  rw [JournalLine.subject, h l hl]
  rfl

namespace AccountPass
variable {p : AccountPass} {table : ProcessorTable}

/-- The services that the lines of the items name, as the reports have them. -/
def namedServices (p : AccountPass) (table : ProcessorTable) : List String :=
  match AccountMetrics.build p.accountId p.marketplace p.recordTypes p.invoiceEntities with
  | .ok m => p.named table m
  | .error _ => []

/-- The services that the pass flags, as the reports have them. -/
def flaggedServices (p : AccountPass) (table : ProcessorTable) : List String :=
  match AccountMetrics.build p.accountId p.marketplace p.recordTypes p.invoiceEntities,
    p.recordTypes.observedCosts.value? with
  | .ok m, some observed => p.flagged table m observed
  | _, _ => []

theorem nodup_flaggedServices (p : AccountPass) (table : ProcessorTable) :
    (p.flaggedServices table).Nodup := by
  unfold flaggedServices
  split
  · exact (SortedMap.nodup_keys _).filter _
  · exact List.nodup_nil

/-- A pass over an account without a slash flags nothing that it names. -/
theorem notMem_namedServices (hslash : '/' ∉ p.accountId.toList) :
    ∀ service ∈ p.flaggedServices table, service ∉ p.namedServices table := by
  intro service hs
  unfold flaggedServices at hs
  unfold namedServices
  split at hs
  next m observed hm _ =>
    rw [hm]
    have hcase := of_decide_eq_true (List.mem_filter.mp hs).2
    exact hcase.resolve_left hslash
  next => cases hs

/-- The lines of a pass, said by the services that they report on. -/
theorem subjects_of_returns {logged : Bool} {o : AccountOutcome} (hsku : table.lookup itemNotFound = none)
    (h : (p.outcome table logged).Returns o) :
    itemSubjects o.lines = (p.namedServices table).map (beforeSlash p.accountId, ·) ∧
      flaggedSubjects o.lines = (p.flaggedServices table).map (beforeSlash p.accountId, ·) := by
  obtain ⟨m, observed, billed, unmatched, hbills, hlines⟩ := outcome_returns h
  have hnamed : p.namedServices table = p.named table m := by rw [namedServices, hbills.metrics]
  have hflagged : p.flaggedServices table = p.flagged table m observed := by
    rw [flaggedServices, hbills.metrics, Billing.value?_eq_some.mpr hbills.costs]
  have hitem : ∀ l ∈ billed.flatten, l.isUnmatched = false := by
    intro l hl
    obtain ⟨ls, hls, hl⟩ := List.mem_flatten.mp hl
    obtain ⟨_, _, hitem⟩ := exists_left_of_mem hbills.lines hls
    refine decide_eq_false fun heq => ?_
    have hsome := (hitem.forall_mem l hl).2.2
    rw [heq, hsku] at hsome
    cases hsome
  have hflag : ∀ l ∈ unmatched, l.isUnmatched = true := by
    intro l hl
    obtain ⟨_, -, hflags⟩ := hbills.flags hl
    exact decide_eq_true hflags.item
  rw [hlines, hnamed, hflagged, itemSubjects, flaggedSubjects, List.filter_append, List.filter_append,
    ← hbills.map_serviceName_billed, ← hbills.map_serviceName_flagged]
  constructor
  · rw [List.filter_eq_self.mpr fun l hl => by rw [hitem l hl]; rfl,
      List.filter_eq_nil_iff.mpr fun l hl => by rw [hflag l hl]; simp, List.append_nil,
      map_subject hbills.accountId_billed]
  · rw [List.filter_eq_nil_iff.mpr fun l hl => by rw [hitem l hl]; simp,
      List.filter_eq_self.mpr hflag, List.nil_append, map_subject hbills.accountId_unmatched]

/-- The lines of both passes carry one account. -/
def SameAccount (p q : AccountPass) : Prop := beforeSlash p.accountId = beforeSlash q.accountId

end AccountPass

/-- Passes over one account do not meet in a service that one of them flags. -/
structure Apart (table : ProcessorTable) (ps : List AccountPass) : Prop where
  named : ∀ p ∈ ps, ∀ q ∈ ps, p.SameAccount q →
    ∀ service ∈ p.flaggedServices table, service ∉ q.namedServices table
  flagged : ps.Pairwise fun p q => p.SameAccount q →
    ∀ service ∈ p.flaggedServices table, service ∉ q.flaggedServices table

theorem disjoint_subjects {account account' : String} {xs ys : List String} :
    (xs.map (account, ·)).Disjoint (ys.map (account', ·)) ↔ (account = account' → ∀ s ∈ xs, s ∉ ys) := by
  constructor
  · rintro h rfl s hx hy
    exact h (List.mem_map_of_mem hx) (List.mem_map_of_mem hy)
  · intro h k hx hy
    obtain ⟨s, hs, rfl⟩ := List.mem_map.mp hx
    obtain ⟨s', hs', heq⟩ := List.mem_map.mp hy
    obtain ⟨rfl, rfl⟩ := Prod.mk.inj heq
    exact h rfl s' hs hs'

theorem noDoubleReport_flatMap {table : ProcessorTable} {logged : Bool}
    {made : List (AccountPass × AccountOutcome)} (hsku : table.lookup itemNotFound = none)
    (h : ∀ m ∈ made, (m.1.outcome table logged).Returns m.2) :
    NoDoubleReport (made.flatMap (·.2.lines)) ↔ Apart table (made.map (·.1)) := by
  have hitem : itemSubjects (made.flatMap (·.2.lines)) =
      (made.map (·.1)).flatMap fun p => (p.namedServices table).map (beforeSlash p.accountId, ·) := by
    rw [itemSubjects_flatMap, List.flatMap_map]
    exact List.flatMap_congr fun m hm => (AccountPass.subjects_of_returns hsku (h m hm)).1
  have hflag : flaggedSubjects (made.flatMap (·.2.lines)) =
      (made.map (·.1)).flatMap fun p => (p.flaggedServices table).map (beforeSlash p.accountId, ·) := by
    rw [flaggedSubjects_flatMap, List.flatMap_map]
    exact List.flatMap_congr fun m hm => (AccountPass.subjects_of_returns hsku (h m hm)).2
  have hinj : ∀ p : AccountPass, ((p.flaggedServices table).map (beforeSlash p.accountId, ·)).Nodup :=
    fun p => (p.nodup_flaggedServices table).map fun _ _ heq => (Prod.mk.inj heq).2
  generalize made.map (·.1) = ps at hitem hflag ⊢
  constructor
  · rintro ⟨hboth, honce⟩
    rw [hflag, hitem] at hboth
    rw [hflag, List.nodup_flatMap] at honce
    refine ⟨fun p hp q hq => disjoint_subjects.mp fun k hk hk' => ?_, ?_⟩
    · exact hboth k (List.mem_flatMap.mpr ⟨p, hp, hk⟩) (List.mem_flatMap.mpr ⟨q, hq, hk'⟩)
    · exact honce.2.imp disjoint_subjects.mp
  · rintro ⟨hnamed, hflagged⟩
    refine ⟨?_, ?_⟩
    · rw [hflag, hitem]
      intro k hk hk'
      obtain ⟨p, hp, hk⟩ := List.mem_flatMap.mp hk
      obtain ⟨q, hq, hk'⟩ := List.mem_flatMap.mp hk'
      exact disjoint_subjects.mpr (hnamed p hp q hq) hk hk'
    · rw [hflag, List.nodup_flatMap]
      exact ⟨fun p _ => hinj p, hflagged.imp disjoint_subjects.mpr⟩

/-- Passes over accounts of their own are apart. -/
theorem apart_of_nodup {table : ProcessorTable} {ps : List AccountPass}
    (hslash : ∀ p ∈ ps, '/' ∉ p.accountId.toList) (hnodup : (ps.map (·.accountId)).Nodup) :
    Apart table ps := by
  have heq : ∀ p ∈ ps, ∀ q ∈ ps, p.SameAccount q → p.accountId = q.accountId := by
    intro p hp q hq h
    rw [AccountPass.SameAccount, beforeSlash_eq_self.mpr (hslash p hp),
      beforeSlash_eq_self.mpr (hslash q hq)] at h
    exact h
  refine ⟨fun p hp q hq h => ?_, ?_⟩
  -- a pass meets its own account only in itself
  · have hpq : p = q := List.inj_on_of_nodup_map hnodup hp hq (heq p hp q hq h)
    rw [← hpq]
    exact AccountPass.notMem_namedServices (hslash p hp)
  · refine (List.pairwise_map.mp hnodup).imp_of_mem fun {p q} hp hq hne h => ?_
    exact absurd (heq p hp q hq h) hne

/-- No catalog has an item for what is not found. -/
theorem Processor.lookup_table_itemNotFound (s : BillingSettings) :
    (Processor.table s).lookup itemNotFound = none := rfl

namespace Generator
variable {σ : Type} {c : Collaborators σ} {p : Plan} {currency : String} {a : Agreement} {w w' : World σ}
  {o : AgreementOutcome}

/-- The lines of an agreement are those of the passes that returned, and they report nothing twice
exactly when these passes are apart. -/
theorem noDoubleReport_iff (hsku : p.table.lookup itemNotFound = none)
    (h : (reconcileAgreement c p currency a).Ends w (.ok o) w') :
    ∃ mpaId, ∃ s : Scope σ, ∃ made, a.mpaId? = some mpaId ∧ Made p s (passes a mpaId) made ∧
      o.lines = made.flatMap (·.2.lines) ∧ (NoDoubleReport o.lines ↔ Apart p.table (made.map (·.1))) := by
  obtain ⟨mpaId, s, ready, hmpa, hadmits⟩ := admits_of_ends h
  obtain ⟨o', made, ho, hmade, hlines, -⟩ := reconcileAgreement_ends hmpa hadmits h
  cases ho
  refine ⟨mpaId, s, made, hmpa, hmade, hlines, ?_⟩
  rw [hlines]
  exact noDoubleReport_flatMap hsku hmade.forall_returns

/-- One service with usage, whatever account is asked for. -/
def oneUsage : Report := .ofGroups [.unblended "Usage" "Amazon EC2" "100"]

/-- A live subscription on a member account; the paying account is billed with its items. -/
def ownAccounts : Agreement :=
  .ofSubscriptions "123456789012" [(.active, "210987654321", ["AWS Other services"])]

theorem noDoubleReport_ownAccounts : Plan.standard.table.lookup itemNotFound = none ∧
    ∃ o w',
      (reconcileAgreement (.answering oneUsage) .standard "USD" ownAccounts).Ends ⟨(), []⟩ (.ok o) w' ∧
      NoDoubleReport o.lines ∧
      ∃ mpaId, ∃ s : Scope Unit, ∃ made, ownAccounts.mpaId? = some mpaId ∧
        Made .standard s (passes ownAccounts mpaId) made ∧ o.lines = made.flatMap (·.2.lines) ∧
        (NoDoubleReport o.lines ↔ Apart Plan.standard.table (made.map (·.1))) := by
  have hsku : Plan.standard.table.lookup itemNotFound = none := Processor.lookup_table_itemNotFound {}
  have hvalue : (Run.value? (ExceptT.run
      (reconcileAgreement (.answering oneUsage) .standard "USD" ownAccounts)) ⟨(), []⟩).bind
        (fun e => e.1.toOption.map fun o => decide (NoDoubleReport o.lines)) = some true := by
    decide +kernel
  obtain ⟨⟨r, w'⟩, hvalue, hr⟩ := Option.bind_eq_some_iff.mp hvalue
  match r with
  | .error _ => cases hr
  | .ok o =>
    have hends := Run.value?_eq_some.mp hvalue
    have hreport := of_decide_eq_true (Option.some.inj hr)
    exact ⟨hsku, o, w', hends, hreport, noDoubleReport_iff hsku hends⟩

/-- Two live subscriptions on one account, of which the second orders nothing. -/
def sharedAccount : Agreement :=
  .ofSubscriptions "123456789012"
    [(.active, "210987654321", ["AWS Other services"]), (.active, "210987654321", [])]

/-- The pass of the second subscription flags what the first one bills. -/
theorem not_noDoubleReport_sharedAccount :
    ∃ o w',
      (reconcileAgreement (.answering oneUsage) .standard "USD" sharedAccount).Ends ⟨(), []⟩ (.ok o) w' ∧
      ¬ NoDoubleReport o.lines := by
  have hvalue : (Run.value? (ExceptT.run
      (reconcileAgreement (.answering oneUsage) .standard "USD" sharedAccount)) ⟨(), []⟩).bind
        (fun e => e.1.toOption.map fun o => decide (NoDoubleReport o.lines)) = some false := by
    decide +kernel
  obtain ⟨⟨r, w'⟩, hvalue, hr⟩ := Option.bind_eq_some_iff.mp hvalue
  match r with
  | .error _ => cases hr
  | .ok o =>
    exact ⟨o, w', Run.value?_eq_some.mp hvalue, of_decide_eq_false (Option.some.inj hr)⟩

/-- An agreement whose passes are over accounts of their own reports nothing twice. -/
theorem noDoubleReport_of_nodup {mpaId : String} (hsku : p.table.lookup itemNotFound = none)
    (hmpa : a.mpaId? = some mpaId) (hslash : ∀ q ∈ passes a mpaId, '/' ∉ q.2.toList)
    (hnodup : ((passes a mpaId).map (·.2)).Nodup)
    (h : (reconcileAgreement c p currency a).Ends w (.ok o) w') : NoDoubleReport o.lines := by
  obtain ⟨_, s, ready, hmpa', hadmits⟩ := admits_of_ends h
  cases hmpa.symm.trans hmpa'
  obtain ⟨o', made, ho, hmade, hlines, -⟩ := reconcileAgreement_ends hmpa hadmits h
  cases ho
  rw [hlines, noDoubleReport_flatMap hsku hmade.forall_returns]
  refine apart_of_nodup (fun pass hpass => ?_) ?_
  · have hmem : pass.accountId ∈ (passes a mpaId).map (·.2) :=
      hmade.sublist_accounts.subset (List.mem_map_of_mem hpass)
    obtain ⟨q, hq, heq⟩ := List.mem_map.mp hmem
    rw [← heq]
    exact hslash q hq
  · exact hmade.sublist_accounts.nodup hnodup

end Generator

end CostJournal
