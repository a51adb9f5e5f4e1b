import CostJournal.Proofs.Agreement.Isolation
import CostJournal.Proofs.Archive

/-!
# What an authorization archives

Of several passes over one account the reports of the last one stay, and of several agreements with one paying account
those of the last one (`Gathers`), so that the archive has two entries for each account that a pass was made over and
two for the paying accounts, all of different names (`archive_gathered`). Runs leave nothing else: what going over
agreements ends with is gathered so (`foldlM_addAgreement_gathered`).
-/

namespace CostJournal

namespace ReportedPass

/-- The entries of an archive for the account. -/
def archiveEntries (p : ReportedPass) : List (String × String) :=
  [(AccountReport.recordTypes.entryName p.accountId, p.recordTypes.toJson.pretty),
    (AccountReport.invoiceEntities.entryName p.accountId, p.invoiceEntities.toJson.pretty)]

theorem standardReports (p : ReportedPass) : StandardReports p.reports :=
  (StandardReports.empty.insert .recordTypes _).insert .invoiceEntities _

end ReportedPass

/-- What an authorization has gathered after it absorbed the agreements one after the other. -/
def AuthorizationContext.gathered (authorization : Authorization) (journalId : String)
    (agreements : List ReportedAgreement) : AuthorizationContext :=
  agreements.foldl (fun context a => context.absorb a.outcome) { authorization, journalId }

namespace OrganizationReports
variable {r : OrganizationReports} {passes : List ReportedPass}

theorem HoldsPasses.standard (h : r.HoldsPasses passes) : r.Standard := by
  intro e he
  obtain ⟨p, -, rfl⟩ := SortedMap.HoldsLast.mem_entries h |>.mp he
  exact p.standardReports

/-- Each account has the reports of the last pass over it, and each paying account those of its last agreement. -/
structure Gathers (r : OrganizationReports) (agreements : List ReportedAgreement) : Prop where
  accounts : r.HoldsPasses (agreements.flatMap (·.passes))
  marketplaceUsage : r.marketplaceUsage.HoldsLast ReportedAgreement.mpaId (·.marketplace) agreements
  organizationInvoices : r.organizationInvoices.HoldsLast ReportedAgreement.mpaId (·.invoices) agreements

theorem Gathers.gathered (authorization : Authorization) (journalId : String) (agreements : List ReportedAgreement) :
    (AuthorizationContext.gathered authorization journalId agreements).reports.Gathers agreements := by
  have hgains := AuthorizationContext.Gains.foldl_absorb { authorization, journalId } agreements
  refine ⟨fun accountId => ?_, fun mpaId => ?_, fun mpaId => ?_⟩
  · match hlast : lastWith? ReportedPass.accountId (agreements.flatMap (·.passes)) accountId with
    | none =>
      rw [hlast]
      exact hgains.unvisited accountId hlast
    | some pass =>
      obtain ⟨reports, hreports, hreplaces⟩ := hgains.visited accountId pass hlast
      rw [hlast, Option.map_some, ← hreplaces.eq_reports]
      exact hreports
  · exact (hgains.marketplaceUsage mpaId).trans (Option.or_none)
  · exact (hgains.organizationInvoices mpaId).trans (Option.or_none)

theorem mem_archiveEntries (h : r.HoldsPasses passes) {entry : String × String} : entry ∈ r.archiveEntries ↔
    (∃ p, lastWith? ReportedPass.accountId passes p.accountId = some p ∧ entry ∈ p.archiveEntries) ∨
      entry = ("MarketplaceUsageReport.json", (Json.ofMap Report.toJson r.marketplaceUsage).pretty) ∨
      entry = ("OrganizationInvoices.json",
        (Json.ofMap OrganizationInvoices.toJson r.organizationInvoices).pretty) := by
  rw [archiveEntries, List.mem_append, List.mem_pair, List.mem_flatMap]
  refine or_congr_left ⟨?_, ?_⟩
  · rintro ⟨_, he, hentry⟩
    obtain ⟨p, hp, rfl⟩ := SortedMap.HoldsLast.mem_entries h |>.mp he
    exact ⟨p, hp, hentry⟩
  · rintro ⟨p, hp, hentry⟩
    exact ⟨_, SortedMap.HoldsLast.mem_entries h |>.mpr ⟨p, hp, rfl⟩, hentry⟩

/-- The archive of whatever agreements left is written, and no two of its entries have one name. They are the two
reports of each account that a pass was made over, from the last such pass, and for the paying accounts all
marketplace reports and all invoices, from the last agreement of each. -/
theorem archive_gathered (authorization : Authorization) (journalId : String) (agreements : List ReportedAgreement) :
    ∃ (entries : List (String × String)) (usage : SortedMap Report) (invoices : SortedMap OrganizationInvoices),
      (AuthorizationContext.gathered authorization journalId agreements).reports.archive = .ok entries ∧
      (entries.map (·.1)).Nodup ∧
      (∀ mpaId, usage.get? mpaId =
        (lastWith? ReportedAgreement.mpaId agreements mpaId).map (·.marketplace)) ∧
      (∀ mpaId, invoices.get? mpaId =
        (lastWith? ReportedAgreement.mpaId agreements mpaId).map (·.invoices)) ∧
      ∀ entry, entry ∈ entries ↔
        (∃ p, lastWith? ReportedPass.accountId (agreements.flatMap (·.passes)) p.accountId = some p ∧
          entry ∈ p.archiveEntries) ∨
        entry = ("MarketplaceUsageReport.json", (Json.ofMap Report.toJson usage).pretty) ∨
        entry = ("OrganizationInvoices.json", (Json.ofMap OrganizationInvoices.toJson invoices).pretty) := by
  have hgathers := Gathers.gathered authorization journalId agreements
  have hstandard := hgathers.accounts.standard
  exact ⟨_, _, _, archive_eq_ok hstandard, nodup_archiveEntries hstandard, hgathers.marketplaceUsage,
    hgathers.organizationInvoices, fun _ => mem_archiveEntries hgathers.accounts⟩

end OrganizationReports

namespace Generator
variable {σ : Type} {c : Collaborators σ} {p : Plan} {w w' : World σ}

/-- What the results of agreements add to an authorization is gathered from the agreements that were reconciled. -/
theorem foldl_addTo_gathered (results : List AgreementResult) (authorization : Authorization) (journalId : String) :
    results.foldl AgreementResult.addTo { authorization, journalId } =
      .gathered authorization journalId (results.filterMap (·.reported?)) :=
  AgreementResult.foldl_addTo results _

/-- Going over the agreements of an authorization gathers what some reported agreements leave. -/
theorem foldlM_addAgreement_gathered {authorization : Authorization} {journalId : String}
    {agreements : List Agreement} {context : AuthorizationContext}
    (h : Run.Ends (agreements.foldlM (addAgreement c p) { authorization, journalId }) w context w') :
    ∃ reported, context = .gathered authorization journalId reported := by
  obtain ⟨results, -, rfl⟩ := foldlM_addAgreement_agreementRuns h
  exact ⟨_, foldl_addTo_gathered results authorization journalId⟩

end Generator

end CostJournal
