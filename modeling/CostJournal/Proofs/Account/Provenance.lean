import CostJournal.Proofs.Account.Pass

/-!
# Where the lines of a pass come from

Whatever a builder writes, a line that charges or one that says why nothing is charged, is filled in from
what the builder was given (`LineBuilder.Fills`), and its item is that of an item of the pass, or none is
known and the line says why. `AccountPass.Bills.stems` says both of every line of a pass.
-/

namespace CostJournal

namespace LineBuilder
variable {b : LineBuilder} {l : JournalLine}

/-- The line is written for the agreement, the account and the month of the builder, at one price. -/
structure Fills (b : LineBuilder) (l : JournalLine) : Prop where
  agreementId : l.agreementId = b.details.agreementId
  mpaId : l.mpaId = b.details.mpaId
  startDate : l.startDate = b.details.startDate
  endDate : l.endDate = b.details.endDate
  unitPrice : l.unitPrice = l.price
  quantity : l.quantity = 1
  accountId : l.subscriptionSearch.value = b.accountId

theorem fills_lineOf (b : LineBuilder) (service sku : String) (converted : Decimal) :
    b.Fills (b.lineOf service converted sku) := by
  constructor <;> rfl

theorem Fills.withError (h : b.Fills l) (message : String) : b.Fills (l.withError message) :=
  ⟨h.agreementId, h.mpaId, h.startDate, h.endDate, h.unitPrice, h.quantity, h.accountId⟩

theorem fills_of_validLine {service sku : String} {amount : Decimal}
    (h : b.validLine service amount sku = .ok l) : b.Fills l := by
  obtain ⟨converted, -, rfl⟩ := validLine_eq_ok.mp h
  exact fills_lineOf b service sku converted

theorem fills_of_errorLine {service sku message : String} {amount : Decimal}
    (h : b.errorLine service amount sku message = .ok l) : b.Fills l := by
  obtain ⟨converted, -, rfl⟩ := errorLine_eq_ok.mp h
  exact (fills_lineOf b service sku converted).withError message

theorem fills_of_unmatchedLine {service : String} {amount : Decimal}
    (h : b.unmatchedLine service amount = .ok l) : b.Fills l := by
  obtain ⟨_, -, h⟩ := bind_eq_ok.mp h
  exact fills_of_errorLine h

end LineBuilder

theorem ItemBills.fills {table : ProcessorTable} {b : LineBuilder} {item : SubscriptionLine}
    {ls : List JournalLine} (h : ItemBills table b item ls) : ∀ l ∈ ls, b.Fills l := by
  cases h with
  | noSku _ => exact fun _ h => nomatch h
  | noProcessor _ _ => exact fun _ h => nomatch h
  | lines _ _ hls =>
    intro l hl
    obtain ⟨_, -, hline⟩ := exists_left_of_mem (Processor.process_returns hls).2 hl
    exact LineBuilder.fills_of_validLine hline
  | failure _ _ _ hl => exact List.forall_mem_singleton.mpr (LineBuilder.fills_of_errorLine hl)

/-- The line is billed through one of the items, which has a processor, or it records a cost that no item
is known for. -/
def IsBilledThrough (table : ProcessorTable) (items : List SubscriptionLine) (l : JournalLine) : Prop :=
  (l.itemSearch.value = itemNotFound ∧ l.error.isSome) ∨
    ∃ item ∈ items, item.sku? = some l.itemSearch.value ∧ (table.lookup l.itemSearch.value).isSome

namespace AccountPass
variable {p : AccountPass} {table : ProcessorTable} {logged : Bool} {m : AccountMetrics}
  {observed : SortedMap Decimal} {billed : List (List JournalLine)} {unmatched : List JournalLine}

theorem Bills.stems (h : p.Bills table m observed billed unmatched) :
    ∀ l ∈ billed.flatten ++ unmatched, (p.builder m).Fills l ∧ IsBilledThrough table p.items l := by
  intro l hl
  rcases List.mem_append.mp hl with hl | hl
  · obtain ⟨ls, hls, hl⟩ := List.mem_flatten.mp hl
    obtain ⟨item, hitem, hbills⟩ := exists_left_of_mem h.lines hls
    obtain ⟨-, hsku⟩ := hbills.forall_mem l hl
    exact ⟨hbills.fills l hl, .inr ⟨item, hitem, hsku⟩⟩
  · obtain ⟨_, -, hflags⟩ := h.flags hl
    obtain ⟨_, -, hline⟩ := exists_left_of_mem (LineBuilder.unmatchedLines_eq_ok.mp h.unmatched) hl
    exact ⟨LineBuilder.fills_of_unmatchedLine hline, .inl ⟨hflags.item, hflags.error⟩⟩

end AccountPass

end CostJournal
