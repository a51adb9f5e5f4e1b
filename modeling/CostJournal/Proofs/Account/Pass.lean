import CostJournal.Proofs.Account.Billed
import CostJournal.Proofs.SortedMap

/-!
# What a pass returns

`AccountPass.Bills` is the record of a pass that returned: its metrics, the observed costs, the lines
of each item, and the lines of the services that no item names. `AccountPass.outcome_returns` says that
these are all its lines; which services they name is `named` and `flagged`.
-/

namespace CostJournal

namespace LineBuilder
variable {b : LineBuilder} {service : String} {amount : Decimal} {l : JournalLine}

/-- The line records a cost that nothing bills. -/
structure Flags (b : LineBuilder) (service : String) (amount : Decimal) (l : JournalLine) : Prop where
  serviceName : l.serviceName = service
  accountId : l.accountId = beforeSlash b.accountId
  item : l.itemSearch.value = itemNotFound
  error : l.error.isSome
  amount : convertAmount amount (b.invoice? service) = .ok l.amount

theorem flags_of_unmatchedLine (h : b.unmatchedLine service amount = .ok l) : b.Flags service amount l := by
  obtain ⟨_, -, h⟩ := bind_eq_ok.mp h
  obtain ⟨converted, hc, rfl⟩ := errorLine_eq_ok.mp h
  refine ⟨?_, ?_, ?_, ?_, ?_⟩
  · rw [JournalLine.serviceName_withError, serviceName_lineOf]
  · rw [JournalLine.accountId_withError, accountId_lineOf]
  · rw [JournalLine.itemSearch_withError, itemSearch_lineOf]
  · rw [JournalLine.error_withError, Option.isSome_some]
  · rw [hc, JournalLine.amount_withError, amount_lineOf]

section
variable {observed : SortedMap Decimal} {lines flagged : List JournalLine}

theorem unmatchedLines_eq_ok : b.unmatchedLines observed lines = .ok flagged ↔
    List.Forall₂ (fun e l => b.unmatchedLine e.1 e.2 = .ok l)
      (observed.entries.filter fun e => !isNamed lines b.accountId e.1) flagged :=
  mapM_eq_ok

theorem map_serviceName_unmatchedLines (h : b.unmatchedLines observed lines = .ok flagged) :
    flagged.map (·.serviceName) = observed.keys.filter fun s => !isNamed lines b.accountId s := by
  rw [map_eq_map_of_forall₂ (unmatchedLines_eq_ok.mp h) fun e _ l hl =>
    (flags_of_unmatchedLine hl).serviceName, SortedMap.keys, List.filter_map]
  rfl

/-- Each of these lines flags an observed cost. -/
theorem flags_of_mem_unmatchedLines (h : b.unmatchedLines observed lines = .ok flagged) (hl : l ∈ flagged) :
    ∃ amount, observed.get? l.serviceName = some amount ∧ b.Flags l.serviceName amount l := by
  obtain ⟨e, he, hline⟩ := exists_left_of_mem (unmatchedLines_eq_ok.mp h) hl
  have hflags := flags_of_unmatchedLine hline
  rw [hflags.serviceName]
  exact ⟨e.2, SortedMap.mem_entries.mp (List.mem_of_mem_filter he), hflags⟩

end

end LineBuilder

/-- Of lines that are all of one account, a service is named when one of them has its name; an account
with a slash is not recognized in any line. -/
theorem isNamed_iff {lines : List JournalLine} {accountId service : String}
    (h : ∀ l ∈ lines, l.accountId = beforeSlash accountId) :
    isNamed lines accountId service = true ↔
      '/' ∉ accountId.toList ∧ service ∈ lines.map (·.serviceName) := by
  simp only [isNamed, List.any_eq_true, Bool.and_eq_true, beq_iff_eq, List.mem_map, ← beforeSlash_eq_self]
  constructor
  · rintro ⟨l, hl, hid, hs⟩
    exact ⟨(h l hl).symm.trans hid, l, hl, hs⟩
  · rintro ⟨hid, l, hl, hs⟩
    exact ⟨l, hl, (h l hl).trans hid, hs⟩

namespace AccountPass
variable {p : AccountPass} {table : ProcessorTable} {logged : Bool} {m : AccountMetrics}
  {observed : SortedMap Decimal} {billed : List (List JournalLine)} {unmatched : List JournalLine}

/-- The services that the lines of the items name. -/
def named (p : AccountPass) (table : ProcessorTable) (m : AccountMetrics) : List String :=
  p.items.flatMap (itemServices table m)

/-- The observed services with a line that says that nothing bills them. -/
def flagged (p : AccountPass) (table : ProcessorTable) (m : AccountMetrics) (observed : SortedMap Decimal) :
    List String :=
  observed.keys.filter fun s => '/' ∈ p.accountId.toList ∨ s ∉ p.named table m

/-- What a pass computes on the way to its lines. -/
structure Bills (p : AccountPass) (table : ProcessorTable) (m : AccountMetrics) (observed : SortedMap Decimal)
    (billed : List (List JournalLine)) (unmatched : List JournalLine) : Prop where
  metrics : AccountMetrics.build p.accountId p.marketplace p.recordTypes p.invoiceEntities = .ok m
  costs : p.recordTypes.observedCosts.Returns observed
  lines : List.Forall₂ (ItemBills table (p.builder m)) p.items billed
  unmatched : (p.builder m).unmatchedLines observed billed.flatten = .ok unmatched

theorem lines_returns {ls : List JournalLine} (h : (p.lines table logged).Returns ls) :
    ∃ m observed billed unmatched, p.Bills table m observed billed unmatched ∧
      ls = billed.flatten ++ unmatched := by
  obtain ⟨m, hm, h⟩ := Billing.returns_bind.mp h
  obtain ⟨billed, hbilled, h⟩ := Billing.returns_bind.mp h
  obtain ⟨observed, hobserved, h⟩ := Billing.returns_bind.mp h
  obtain ⟨unmatched, hunmatched, h⟩ := Billing.returns_bind.mp h
  refine ⟨m, observed, billed, unmatched, ⟨?_, hobserved, ?_, ?_⟩, ?_⟩
  · exact Billing.returns_ofExcept.mp hm
  · exact (mapM_eq_ok.mp (Billing.returns_liftM.mp hbilled)).imp fun _ _ => itemBills_of_itemLines
  · exact Billing.returns_liftM.mp hunmatched
  · cases logged with
    | false => exact (Billing.returns_pure.mp h).symm
    | true =>
      obtain ⟨_, -, h⟩ := Billing.returns_bind.mp h
      exact (Billing.returns_pure.mp h).symm

/-- Once the metrics are known, only a report whose costs are not read fails a pass; what a processor refuses
is a line. -/
theorem lines_fails {e : Failure} (h : (p.lines table logged).Fails e) :
    AccountMetrics.build p.accountId p.marketplace p.recordTypes p.invoiceEntities = .error e ∨
      ∃ m, AccountMetrics.build p.accountId p.marketplace p.recordTypes p.invoiceEntities = .ok m ∧
        p.recordTypes.observedCosts.Fails e := by
  rcases Billing.fails_bind.mp h with h | ⟨m, hm, h⟩
  · exact .inl (Billing.fails_ofExcept.mp h)
  refine .inr ⟨m, Billing.returns_ofExcept.mp hm, ?_⟩
  rcases Billing.fails_bind.mp h with h | ⟨_, -, h⟩
  · exact absurd h Billing.fails_liftM
  rcases Billing.fails_bind.mp h with h | ⟨_, -, h⟩
  · exact h
  rcases Billing.fails_bind.mp h with h | ⟨_, -, h⟩
  · exact absurd h Billing.fails_liftM
  cases logged with
  | false => exact absurd h Billing.fails_pure
  | true =>
    rcases Billing.fails_bind.mp h with h | ⟨_, -, h⟩
    · exact absurd h Billing.fails_liftM
    · exact absurd h Billing.fails_pure

theorem outcome_returns {o : AccountOutcome} (h : (p.outcome table logged).Returns o) :
    ∃ m observed billed unmatched, p.Bills table m observed billed unmatched ∧
      o.lines = billed.flatten ++ unmatched := by
  obtain ⟨ls, hls, h⟩ := Billing.returns_bind.mp h
  rw [← Billing.returns_pure.mp h]
  exact lines_returns hls

/-- A pass over one account that orders `skus` and has costs by record type and service, without
invoices and charges of the marketplace. -/
def ofCosts (skus : List String) (costs : List (String × String × String)) : AccountPass where
  accountId := "210987654321"
  items := skus.map fun sku => ⟨sku, sku, ⟨some sku⟩⟩
  details := ⟨"AGR-1", "123456789012", .first, .last, "COM"⟩
  invoices := {}
  marketplace := .empty
  recordTypes := .ofGroups (costs.map fun c => .unblended c.1 c.2.1 c.2.2)
  invoiceEntities := .empty

namespace Bills

theorem accountId_billed (h : p.Bills table m observed billed unmatched) :
    ∀ l ∈ billed.flatten, l.accountId = beforeSlash p.accountId := by
  intro l hl
  obtain ⟨ls, hls, hl⟩ := List.mem_flatten.mp hl
  obtain ⟨_, _, hitem⟩ := exists_left_of_mem h.lines hls
  exact (hitem.forall_mem l hl).1

theorem map_serviceName_billed (h : p.Bills table m observed billed unmatched) :
    billed.flatten.map (·.serviceName) = p.named table m := by
  rw [List.map_flatten, map_eq_map_of_forall₂ h.lines fun _ _ _ hitem => hitem.map_serviceName, named,
    List.flatMap_def]
  rfl

theorem isNamed_billed (h : p.Bills table m observed billed unmatched) (service : String) :
    isNamed billed.flatten p.accountId service = true ↔
      '/' ∉ p.accountId.toList ∧ service ∈ p.named table m := by
  rw [isNamed_iff h.accountId_billed, h.map_serviceName_billed]

theorem map_serviceName_flagged (h : p.Bills table m observed billed unmatched) :
    unmatched.map (·.serviceName) = p.flagged table m observed := by
  rw [LineBuilder.map_serviceName_unmatchedLines h.unmatched, AccountPass.flagged]
  refine List.filter_congr fun s _ => ?_
  rw [Bool.eq_iff_iff, Bool.not_eq_true', ← Bool.not_eq_true, decide_eq_true_iff]
  show ¬ isNamed billed.flatten p.accountId s = true ↔ _
  rw [h.isNamed_billed, Decidable.not_and_iff_not_or_not, Decidable.not_not]

theorem flags (h : p.Bills table m observed billed unmatched) {l : JournalLine} (hl : l ∈ unmatched) :
    ∃ amount, observed.get? l.serviceName = some amount ∧ (p.builder m).Flags l.serviceName amount l :=
  LineBuilder.flags_of_mem_unmatchedLines h.unmatched hl

theorem accountId_unmatched (h : p.Bills table m observed billed unmatched) :
    ∀ l ∈ unmatched, l.accountId = beforeSlash p.accountId := by
  intro l hl
  obtain ⟨_, -, hflags⟩ := h.flags hl
  exact hflags.accountId

end Bills

end AccountPass

end CostJournal
