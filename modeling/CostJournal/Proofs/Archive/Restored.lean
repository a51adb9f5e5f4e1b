import CostJournal.Archive
import CostJournal.Proofs.Json.Decoding
import Mathlib.Data.List.Forall2

/-!
# What an archive holds

The texts of an archive are read back as the reports and invoices that they were written from, decimals with
their places (`archiveEntries_restored`). Only a negative zero would lose its sign.
-/

namespace CostJournal
open Json

theorem MetricValue.restores (m : MetricValue) : Restores toJson ofJson? m where
  plain := (ArePlain.append (.cons (.string _) .nil) (.field? fun _ _ => .string _)).object
  read := by
    obtain ⟨amount, unit⟩ := m
    cases unit <;> rfl

theorem Group.restores (g : Group) : Restores toJson ofJson? g := by
  have hkeys : Restores (ofList .string) (list? text?) g.keys := .list fun s _ => .text s
  have hmetrics : Restores (ofMap MetricValue.toJson) (map? MetricValue.ofJson?) g.metrics :=
    .map fun e _ => e.2.restores
  refine ⟨(ArePlain.cons hkeys.plain (.cons hmetrics.plain .nil)).object, ?_⟩
  show ((list? text? (ofList .string g.keys)).bind fun keys =>
    (map? MetricValue.ofJson? (ofMap MetricValue.toJson g.metrics)).bind fun metrics =>
      some (Group.mk keys metrics)) = some g
  rw [hkeys.read, hmetrics.read]
  rfl

theorem TimePeriod.restores (t : TimePeriod) : Restores toJson ofJson? t :=
  ⟨(ArePlain.cons (.string _) (.cons (.string _) .nil)).object, rfl⟩

theorem ResultByTime.restores (t : ResultByTime) : Restores toJson ofJson? t := by
  have hgroups : Restores (ofList Group.toJson) (list? Group.ofJson?) t.groups := .list fun g _ => g.restores
  refine ⟨ArePlain.object (.append (.append (.field? fun p _ => p.restores.plain) (.cons hgroups.plain .nil))
    (.field? fun b _ => .bool b)), ?_⟩
  have hread : ∀ period groups estimated, ofJson? (toJson ⟨period, groups, estimated⟩) =
      (list? Group.ofJson? (ofList Group.toJson groups)).bind fun groups => some ⟨period, groups, estimated⟩ := by
    rintro (_ | _) groups (_ | _) <;> rfl
  exact (hread _ _ _).trans (by rw [hgroups.read, Option.bind_some])

theorem Report.restores (r : Report) : Restores toJson ofJson? r := by
  have hresults : Restores (ofList ResultByTime.toJson) (list? ResultByTime.ofJson?) r.resultsByTime :=
    .list fun t _ => t.restores
  refine ⟨(ArePlain.cons hresults.plain .nil).object, ?_⟩
  show ((list? ResultByTime.ofJson? (ofList ResultByTime.toJson r.resultsByTime)).bind fun results =>
    some (Report.mk results)) = some r
  rw [hresults.read]
  rfl

theorem InvoiceEntityDetails.restores {d : InvoiceEntityDetails} (h : ¬d.exchangeRate.IsNegativeZero) :
    Restores toJson ofJson? d := by
  have hrate : Restores ofDecimalText decimal? d.exchangeRate := .decimal h
  refine ⟨(ArePlain.cons (.string _) (.cons (.string _) (.cons (.string _) (.cons hrate.plain .nil)))).object, ?_⟩
  show ((decimal? (ofDecimalText d.exchangeRate)).bind fun rate =>
    some (InvoiceEntityDetails.mk d.invoiceId d.baseCurrency d.paymentCurrency rate)) = some d
  rw [hrate.read]
  rfl

namespace OrganizationInvoices

/-- The exchange rates and the totals. -/
def decimals (o : OrganizationInvoices) : List Decimal :=
  o.entities.values.map (·.exchangeRate) ++
    [o.totalAmount, o.totalAmountBeforeTax, o.baseTotalAmount, o.baseTotalAmountBeforeTax]

theorem restores {o : OrganizationInvoices} (h : ∀ d ∈ o.decimals, ¬d.IsNegativeZero) :
    Restores toJson ofJson? o := by
  obtain ⟨hrates, htotals⟩ := List.forall_mem_append.mp h
  have hentities : Restores (ofMap InvoiceEntityDetails.toJson) (map? InvoiceEntityDetails.ofJson?) o.entities :=
    .map fun e he => InvoiceEntityDetails.restores
      (hrates _ (List.mem_map_of_mem (List.mem_map_of_mem he)))
  have htotal : ∀ d ∈ [o.totalAmount, o.totalAmountBeforeTax, o.baseTotalAmount, o.baseTotalAmountBeforeTax],
      Restores ofDecimalText decimal? d := fun d hd => .decimal (htotals d hd)
  simp only [List.forall_mem_cons] at htotal
  obtain ⟨htotal, hbeforeTax, hbase, hbaseBeforeTax, -⟩ := htotal
  refine ⟨(ArePlain.cons hentities.plain (.cons htotal.plain (.cons hbeforeTax.plain (.cons hbase.plain
    (.cons hbaseBeforeTax.plain .nil))))).object, ?_⟩
  show ((map? InvoiceEntityDetails.ofJson? (ofMap InvoiceEntityDetails.toJson o.entities)).bind fun entities =>
    (decimal? (ofDecimalText o.totalAmount)).bind fun total =>
    (decimal? (ofDecimalText o.totalAmountBeforeTax)).bind fun beforeTax =>
    (decimal? (ofDecimalText o.baseTotalAmount)).bind fun base =>
    (decimal? (ofDecimalText o.baseTotalAmountBeforeTax)).bind fun baseBeforeTax =>
      some (OrganizationInvoices.mk entities total beforeTax base baseBeforeTax)) = some o
  rw [hentities.read, htotal.read, hbeforeTax.read, hbase.read, hbaseBeforeTax.read]
  rfl

end OrganizationInvoices

/-- What an entry of an archive is written from. -/
inductive Archived where
  | report (r : Report)
  | marketplaceUsage (m : SortedMap Report)
  | organizationInvoices (m : SortedMap OrganizationInvoices)

/-- The text is JSON that reads as exactly what it was written from. -/
def Archived.IsRestoredFrom (text : String) : Archived → Prop
  | report r => (ofText? text).bind Report.ofJson? = some r
  | marketplaceUsage m => (ofText? text).bind (map? Report.ofJson?) = some m
  | organizationInvoices m => (ofText? text).bind (map? OrganizationInvoices.ofJson?) = some m

namespace OrganizationReports

/-- What is archived, each under the name of its entry. -/
def archived (r : OrganizationReports) : List (String × Archived) :=
  (r.accounts.entries.flatMap fun a => a.2.entries.map fun e => (a.1 ++ " - " ++ e.1 ++ ".json", .report e.2))
    ++ [("MarketplaceUsageReport.json", .marketplaceUsage r.marketplaceUsage),
      ("OrganizationInvoices.json", .organizationInvoices r.organizationInvoices)]

/-- Every entry of the archive is restored to what it was written from. -/
theorem archiveEntries_restored (r : OrganizationReports)
    (h : ∀ o ∈ r.organizationInvoices.values, ∀ d ∈ o.decimals, ¬d.IsNegativeZero) :
    List.Forall₂ (fun entry archived => entry.1 = archived.1 ∧ archived.2.IsRestoredFrom entry.2)
      r.archiveEntries r.archived := by
  have hmarketplace : Restores (ofMap Report.toJson) (map? Report.ofJson?) r.marketplaceUsage :=
    .map fun e _ => e.2.restores
  have hinvoices : Restores (ofMap OrganizationInvoices.toJson) (map? OrganizationInvoices.ofJson?)
      r.organizationInvoices := .map fun e he => OrganizationInvoices.restores (h e.2 (List.mem_map_of_mem he))
  refine List.rel_append ?_
    (.cons ⟨rfl, hmarketplace.ofText?_pretty⟩ (.cons ⟨rfl, hinvoices.ofText?_pretty⟩ .nil))
  refine List.rel_flatMap (List.forall₂_same.mpr fun _ _ => rfl) ?_
  rintro a _ rfl
  rw [List.forall₂_map_left_iff, List.forall₂_map_right_iff, List.forall₂_same]
  exact fun e _ => ⟨rfl, e.2.restores.ofText?_pretty⟩

/-- A report of one account, and invoices of which the totals have places. -/
def withPlaces : OrganizationReports where
  accounts := SortedMap.empty.insert "210987654321"
    (SortedMap.empty.insert AccountReport.recordTypes.name (.ofGroups [.unblended "Usage" "Amazon EC2" "-0.10"]))
  organizationInvoices := SortedMap.empty.insert "123456789012"
    { totalAmount := (Decimal.ofParts? 150 2).getD .zero, baseTotalAmount := (Decimal.ofParts? (-1) 28).getD .zero }

theorem archiveEntries_restored_withPlaces :
    (∀ o ∈ withPlaces.organizationInvoices.values, ∀ d ∈ o.decimals, ¬d.IsNegativeZero) ∧
      List.Forall₂ (fun entry archived => entry.1 = archived.1 ∧ archived.2.IsRestoredFrom entry.2)
        withPlaces.archiveEntries withPlaces.archived := by
  have hzeros : ∀ o ∈ withPlaces.organizationInvoices.values, ∀ d ∈ o.decimals, ¬d.IsNegativeZero := by decide
  exact ⟨hzeros, archiveEntries_restored withPlaces hzeros⟩

end OrganizationReports

end CostJournal
