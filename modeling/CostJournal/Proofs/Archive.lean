import CostJournal.Archive
import CostJournal.Proofs.SortedMap

/-!
# The archive of reports

Where every report of an account has one of the two names of `AccountReport` (`OrganizationReports.Standard`),
the name of an entry tells its account and its report, no two entries of an archive share one, and the archive
is written (`reportsAttachment_eq_ok`). What authorizations gather is so (`Archive/Gathered.lean`).
-/

namespace CostJournal

/-- The reports of an account are those that it is reconciled with. -/
def StandardReports (reports : SortedMap Report) : Prop :=
  ∀ e ∈ reports.entries, ∃ kind : AccountReport, e.1 = kind.name

namespace StandardReports
variable {reports : SortedMap Report}

theorem empty : StandardReports .empty := fun _ h => nomatch h

theorem insert (h : StandardReports reports) (kind : AccountReport) (r : Report) :
    StandardReports (reports.insert kind.name r) := by
  intro e he
  rcases SortedMap.mem_entries_insert he with rfl | he
  · exact ⟨kind, rfl⟩
  · exact h e he

end StandardReports

namespace OrganizationReports
variable {r : OrganizationReports}

def Standard (r : OrganizationReports) : Prop := ∀ e ∈ r.accounts.entries, StandardReports e.2

end OrganizationReports

/-- The name of the archive's entry for a report of an account. -/
def AccountReport.entryName (accountId : String) (kind : AccountReport) : String :=
  accountId ++ " - " ++ kind.name ++ ".json"

theorem AccountReport.getLast_name (accountId : String) (kind : AccountReport) :
    (accountId ++ " - " ++ kind.name).toList.getLast? = kind.name.toList.getLast? := by
  rw [String.toList_append, List.getLast?_append]
  cases kind <;> rfl

theorem AccountReport.entryName_inj {accountId accountId' : String} {kind kind' : AccountReport} :
    kind.entryName accountId = kind'.entryName accountId' ↔ accountId = accountId' ∧ kind = kind' := by
  refine ⟨fun h => ?_, by rintro ⟨rfl, rfl⟩; rfl⟩
  unfold entryName at h
  rw [String.append_left_inj] at h
  obtain rfl : kind = kind' := by
    have hlast : kind.name.toList.getLast? = kind'.name.toList.getLast? := by
      rw [← getLast_name accountId kind, h, getLast_name]
    cases kind <;> cases kind' <;> first | rfl | exact absurd hlast (by decide)
  rw [String.append_left_inj, String.append_left_inj] at h
  exact ⟨h, rfl⟩

theorem AccountReport.entryName_ne (accountId : String) (kind : AccountReport) :
    kind.entryName accountId ∉ ["MarketplaceUsageReport.json", "OrganizationInvoices.json"] := by
  have hstem : ∀ stem : String, kind.name.toList.getLast? ≠ stem.toList.getLast? →
      kind.entryName accountId ≠ stem ++ ".json" := by
    intro stem hne h
    unfold entryName at h
    rw [String.append_left_inj] at h
    exact hne (by rw [← h, getLast_name])
  rw [List.mem_pair, not_or]
  exact ⟨hstem "MarketplaceUsageReport" (by cases kind <;> decide),
    hstem "OrganizationInvoices" (by cases kind <;> decide)⟩

namespace OrganizationReports
variable {r : OrganizationReports}

theorem repeatedName?_eq_none {seen names : List String} :
    repeatedName? seen names = none ↔ names.Nodup ∧ ∀ name ∈ names, name ∉ seen := by
  induction names generalizing seen with
  | nil => simp [repeatedName?]
  | cons name names ih =>
    rw [repeatedName?, List.nodup_cons, List.forall_mem_cons]
    by_cases hseen : name ∈ seen
    · simp [hseen]
    · rw [List.contains_eq_mem, decide_eq_false hseen, if_neg Bool.false_ne_true, ih]
      simp only [List.mem_cons, not_or]
      constructor
      · rintro ⟨hnodup, hnew⟩
        exact ⟨⟨fun hname => (hnew name hname).1 rfl, hnodup⟩, hseen, fun n hn => (hnew n hn).2⟩
      · rintro ⟨⟨hname, hnodup⟩, -, hnew⟩
        exact ⟨hnodup, fun n hn => ⟨fun heq => hname (heq ▸ hn), hnew n hn⟩⟩

/-- The names of the entries for the reports of an account. -/
def entryNames (a : String × SortedMap Report) : List String :=
  a.2.keys.map fun name => a.1 ++ " - " ++ name ++ ".json"

theorem nodup_entryNames (a : String × SortedMap Report) : (entryNames a).Nodup := by
  refine List.Nodup.map (fun name name' heq => ?_) a.2.nodup_keys
  rwa [String.append_left_inj, String.append_right_inj] at heq

theorem exists_entryName {a : String × SortedMap Report} (h : StandardReports a.2) {name : String}
    (hname : name ∈ entryNames a) : ∃ kind : AccountReport, name = kind.entryName a.1 := by
  obtain ⟨key, hkey, rfl⟩ := List.mem_map.mp hname
  obtain ⟨e, he, rfl⟩ := List.mem_map.mp hkey
  obtain ⟨kind, hkind⟩ := h e he
  exact ⟨kind, by rw [hkind]; rfl⟩

/-- No two entries of the archive have one name. -/
theorem nodup_archiveEntries (h : r.Standard) : (r.archiveEntries.map (·.1)).Nodup := by
  have hnames : r.archiveEntries.map (·.1) = r.accounts.entries.flatMap entryNames ++
      ["MarketplaceUsageReport.json", "OrganizationInvoices.json"] := by
    have hkeys : entryNames = fun a => (a.2.entries.map fun e => (a.1 ++ " - " ++ e.1 ++ ".json",
        e.2.toJson.pretty)).map (·.1) := by
      funext a
      rw [entryNames, SortedMap.keys, List.map_map, List.map_map]
      rfl
    rw [archiveEntries, List.map_append, List.map_flatMap, hkeys]
    rfl
  rw [hnames]
  refine List.nodup_append.mpr ⟨?_, by decide, ?_⟩
  · refine List.nodup_flatMap.mpr ⟨fun a _ => nodup_entryNames a, ?_⟩
    refine r.accounts.ascending.imp_of_mem fun {a b} ha hb hlt name hname hname' => ?_
    obtain ⟨kind, rfl⟩ := exists_entryName (h a ha) hname
    obtain ⟨kind', heq⟩ := exists_entryName (h b hb) hname'
    exact Std.ne_of_lt hlt (AccountReport.entryName_inj.mp heq).1
  · rintro name hname _ hfixed rfl
    obtain ⟨a, ha, hname⟩ := List.mem_flatMap.mp hname
    obtain ⟨kind, rfl⟩ := exists_entryName (h a ha) hname
    exact AccountReport.entryName_ne a.1 kind hfixed

theorem archive_eq_ok (h : r.Standard) : r.archive = .ok r.archiveEntries := by
  unfold archive
  rw [repeatedName?_eq_none.mpr ⟨nodup_archiveEntries h, fun _ _ => List.not_mem_nil⟩]

end OrganizationReports

theorem reportsAttachment_eq_ok {r : OrganizationReports} (h : r.Standard) (journalId : String) :
    ∃ attachment, reportsAttachment journalId r = .ok attachment ∧
      attachment.content = .archive r.archiveEntries := by
  unfold reportsAttachment
  rw [OrganizationReports.archive_eq_ok h]
  exact ⟨_, rfl, rfl⟩

end CostJournal
