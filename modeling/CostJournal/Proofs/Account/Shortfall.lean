import CostJournal.Proofs.Account.Pass
import CostJournal.Proofs.Decimal.Units

/-!
# Costs that no line accounts for

A service is accounted for when a line says that it is not billed, or when its lines add up to its cost.
Services are matched by name alone, so a service of which only a part is billed counts as billed:
`accountedFor_iff` says exactly which services are accounted for, and `not_accountedFor_usageAndFee` is a
pass that loses a third of a cost.
-/

namespace CostJournal

/-- A line of the service carries an error, or the lines of the service add up to its cost. -/
def AccountedFor (lines : List JournalLine) (service : String) (cost : Decimal) : Prop :=
  (∃ l ∈ lines, l.serviceName = service ∧ l.error.isSome) ∨
    cost.units ≤ ((lines.filter (·.serviceName = service)).map (·.amount.units)).sum

instance (lines : List JournalLine) (service : String) (cost : Decimal) :
    Decidable (AccountedFor lines service cost) :=
  inferInstanceAs (Decidable (_ ∨ _))

namespace AccountPass
variable {p : AccountPass} {table : ProcessorTable} {logged : Bool} {m : AccountMetrics}
  {observed : SortedMap Decimal} {billed : List (List JournalLine)} {unmatched : List JournalLine}
  {service : String}

/-- The amounts of a service that the items bill. -/
def billedAmounts (p : AccountPass) (table : ProcessorTable) (m : AccountMetrics) (service : String) :
    List Decimal :=
  ((p.items.flatMap (itemCosts table m)).filter (·.1 = service)).map (·.2)

/-- The processor of some item cannot judge the service. -/
def HasUndecided (p : AccountPass) (table : ProcessorTable) (m : AccountMetrics) (service : String) : Prop :=
  ∃ item ∈ p.items, itemUndecided? table m item = some service

theorem mem_named : service ∈ p.named table m ↔
    p.HasUndecided table m service ∨ p.billedAmounts table m service ≠ [] := by
  have hcosts : p.billedAmounts table m service ≠ [] ↔
      ∃ item ∈ p.items, service ∈ (itemCosts table m item).map (·.1) := by
    simp only [billedAmounts, ne_eq, List.map_eq_nil_iff, List.filter_eq_nil_iff, List.mem_flatMap,
      decide_eq_true_eq, List.mem_map]
    constructor
    · intro h
      obtain ⟨e, ⟨item, hitem, he⟩, hs⟩ := by
        simpa only [not_forall, not_not, exists_prop] using h
      exact ⟨item, hitem, e, he, hs⟩
    · rintro ⟨item, hitem, e, he, hs⟩ h
      exact h e ⟨item, hitem, he⟩ hs
  rw [hcosts, named, List.mem_flatMap, HasUndecided, ← exists_or]
  refine exists_congr fun item => ?_
  rw [itemServices, List.mem_append, Option.mem_toList, ← and_or_left]

namespace Bills

theorem exists_error_billed (h : p.Bills table m observed billed unmatched) :
    (∃ l ∈ billed.flatten, l.serviceName = service ∧ l.error.isSome) ↔ p.HasUndecided table m service := by
  constructor
  · rintro ⟨l, hl, herror⟩
    obtain ⟨ls, hls, hl⟩ := List.mem_flatten.mp hl
    obtain ⟨item, hitem, hbills⟩ := exists_left_of_mem h.lines hls
    exact ⟨item, hitem, hbills.exists_error_iff.mp ⟨l, hl, herror⟩⟩
  · rintro ⟨item, hitem, hund⟩
    obtain ⟨ls, hls, hbills⟩ := exists_right_of_mem h.lines hitem
    obtain ⟨l, hl, herror⟩ := hbills.exists_error_iff.mpr hund
    exact ⟨l, List.mem_flatten.mpr ⟨ls, hls, hl⟩, herror⟩

theorem amounts_billed (h : p.Bills table m observed billed unmatched)
    (hc : ∀ d ∈ (p.builder m).invoice? service, d.needsConversion = false)
    (hund : ¬ p.HasUndecided table m service) :
    (billed.flatten.filter (·.serviceName = service)).map (·.amount) = p.billedAmounts table m service := by
  have hitems : billed.map (fun ls => (ls.filter (·.serviceName = service)).map (·.amount)) =
      p.items.map fun item => ((itemCosts table m item).filter (·.1 = service)).map (·.2) := by
    refine map_eq_map_of_forall₂ h.lines fun item hitem ls hbills => hbills.amounts hc fun heq => ?_
    exact hund ⟨item, hitem, heq⟩
  rw [List.filter_flatten, List.map_flatten, List.map_map, billedAmounts, List.filter_flatMap,
    List.map_flatMap, List.flatMap_def, ← hitems]
  rfl

theorem mem_flagged (h : p.Bills table m observed billed unmatched) {cost : Decimal}
    (hget : observed.get? service = some cost) :
    (∃ l ∈ unmatched, l.serviceName = service) ↔ '/' ∈ p.accountId.toList ∨ service ∉ p.named table m := by
  have hkey : service ∈ observed.keys := SortedMap.mem_keys.mpr ⟨cost, hget⟩
  rw [← List.mem_map, h.map_serviceName_flagged, flagged, List.mem_filter, decide_eq_true_iff]
  exact and_iff_right hkey

/-- Where nothing is converted, a service is accounted for when it is flagged, when an item is
undecided on it, and else when the amounts that the items bill reach its cost. -/
theorem accountedFor (h : p.Bills table m observed billed unmatched)
    (hc : ∀ d ∈ (p.builder m).invoice? service, d.needsConversion = false) {cost : Decimal}
    (hget : observed.get? service = some cost) :
    AccountedFor (billed.flatten ++ unmatched) service cost ↔
      '/' ∈ p.accountId.toList ∨ p.HasUndecided table m service ∨ p.billedAmounts table m service = [] ∨
        cost.units ≤ ((p.billedAmounts table m service).map (·.units)).sum := by
  by_cases hflag : '/' ∈ p.accountId.toList ∨ service ∉ p.named table m
  -- the pass flags the service, and the flag is an error
  · obtain ⟨l, hl, hs⟩ := (h.mem_flagged hget).mpr hflag
    obtain ⟨_, -, hflags⟩ := h.flags hl
    refine iff_of_true (.inl ⟨l, List.mem_append_right _ hl, hs, hflags.error⟩) ?_
    rcases hflag with hslash | hnot
    · exact .inl hslash
    · rw [mem_named, not_or, not_not] at hnot
      exact .inr (.inr (.inl hnot.2))
  -- only lines of items name the service
  · have hnone : ∀ l ∈ unmatched, l.serviceName ≠ service := fun l hl hs =>
      hflag ((h.mem_flagged hget).mp ⟨l, hl, hs⟩)
    obtain ⟨hslash, hnamed⟩ := not_or.mp hflag
    rw [not_not, mem_named] at hnamed
    by_cases hund : p.HasUndecided table m service
    · obtain ⟨l, hl, herror⟩ := h.exists_error_billed.mpr hund
      exact iff_of_true (.inl ⟨l, List.mem_append_left _ hl, herror⟩) (.inr (.inl hund))
    · have hsome : p.billedAmounts table m service ≠ [] := hnamed.resolve_left hund
      have hnoError : ¬ ∃ l ∈ billed.flatten ++ unmatched, l.serviceName = service ∧ l.error.isSome := by
        rintro ⟨l, hl, hs, herror⟩
        rcases List.mem_append.mp hl with hl | hl
        · exact hund (h.exists_error_billed.mp ⟨l, hl, hs, herror⟩)
        · exact hnone l hl hs
      have hfilter : unmatched.filter (·.serviceName = service) = [] :=
        List.filter_eq_nil_iff.mpr fun l hl => by simpa using hnone l hl
      have hunits : ((billed.flatten ++ unmatched).filter (·.serviceName = service)).map (·.amount.units) =
          (p.billedAmounts table m service).map (·.units) := by
        rw [List.filter_append, hfilter, List.append_nil, ← h.amounts_billed hc hund, List.map_map]
        rfl
      rw [AccountedFor, hunits, or_iff_right hnoError, or_iff_right hslash, or_iff_right hund,
        or_iff_right hsome]

end Bills

/-- An observed service is accounted for exactly when its account has a slash in its id, an item is
undecided on it, no item bills it, or what the items bill reaches its cost. -/
theorem accountedFor_iff {o : AccountOutcome} (h : (p.outcome table logged).Returns o) :
    ∃ m observed,
      AccountMetrics.build p.accountId p.marketplace p.recordTypes p.invoiceEntities = .ok m ∧
      p.recordTypes.observedCosts.Returns observed ∧
      ((∀ service, ∀ d ∈ (p.builder m).invoice? service, d.needsConversion = false) →
        ∀ service cost, observed.get? service = some cost →
          (AccountedFor o.lines service cost ↔
            '/' ∈ p.accountId.toList ∨ p.HasUndecided table m service ∨
              p.billedAmounts table m service = [] ∨
              cost.units ≤ ((p.billedAmounts table m service).map (·.units)).sum)) := by
  obtain ⟨m, observed, billed, unmatched, hbills, hlines⟩ := outcome_returns h
  refine ⟨m, observed, hbills.metrics, hbills.costs, fun hc service cost hget => ?_⟩
  rw [hlines]
  exact hbills.accountedFor (hc service) hget

/-- A service with usage and a recurring fee, and the discount that both are expected to have. -/
def usageAndFee (skus : List String) : AccountPass :=
  ofCosts skus [("Usage", "Amazon EC2", "100"), ("Recurring", "Amazon EC2", "50"),
    ("Solution Provider Program Discount", "Amazon EC2", "-10.5")]

theorem not_needsConversion_usageAndFee (skus : List String) (service : String) :
    ∀ d ∈ ((usageAndFee skus).builder m).invoice? service, d.needsConversion = false := by
  intro d hd
  cases hd

theorem accountedFor_usageAndFee :
    ∃ o, ((usageAndFee ["AWS Usage", "Upfront"]).outcome (Processor.table {}) false).Returns o ∧
      AccountedFor o.lines "Amazon EC2" (.ofNat 150) ∧
      ∃ m observed,
        AccountMetrics.build (usageAndFee ["AWS Usage", "Upfront"]).accountId .empty
          (usageAndFee ["AWS Usage", "Upfront"]).recordTypes .empty = .ok m ∧
        (usageAndFee ["AWS Usage", "Upfront"]).recordTypes.observedCosts.Returns observed ∧
        ∀ service cost, observed.get? service = some cost →
          (AccountedFor o.lines service cost ↔
            '/' ∈ (usageAndFee ["AWS Usage", "Upfront"]).accountId.toList ∨
              (usageAndFee ["AWS Usage", "Upfront"]).HasUndecided (Processor.table {}) m service ∨
              (usageAndFee ["AWS Usage", "Upfront"]).billedAmounts (Processor.table {}) m service = [] ∨
              cost.units ≤ (((usageAndFee ["AWS Usage", "Upfront"]).billedAmounts (Processor.table {}) m
                service).map (·.units)).sum) := by
  have hvalue : ((usageAndFee ["AWS Usage", "Upfront"]).outcome (Processor.table {}) false).value?.map
      (fun o => decide (AccountedFor o.lines "Amazon EC2" (.ofNat 150))) = some true := by
    decide +kernel
  obtain ⟨o, ho, hfor⟩ := Option.map_eq_some_iff.mp hvalue
  have ho := Billing.value?_eq_some.mp ho
  obtain ⟨m, observed, hm, hcosts, hiff⟩ := accountedFor_iff ho
  exact ⟨o, ho, of_decide_eq_true hfor, m, observed, hm, hcosts,
    hiff (not_needsConversion_usageAndFee _)⟩

/-- With the usage billed alone, the fee is in no line. -/
theorem not_accountedFor_usageAndFee :
    ∃ o m observed, ((usageAndFee ["AWS Usage"]).outcome (Processor.table {}) false).Returns o ∧
      AccountMetrics.build (usageAndFee ["AWS Usage"]).accountId .empty
        (usageAndFee ["AWS Usage"]).recordTypes .empty = .ok m ∧
      (usageAndFee ["AWS Usage"]).recordTypes.observedCosts.Returns observed ∧
      (∀ service, ∀ d ∈ ((usageAndFee ["AWS Usage"]).builder m).invoice? service,
        d.needsConversion = false) ∧
      observed.get? "Amazon EC2" = some (.ofNat 150) ∧
      ¬ AccountedFor o.lines "Amazon EC2" (.ofNat 150) := by
  have hvalue : ((usageAndFee ["AWS Usage"]).outcome (Processor.table {}) false).value?.map
      (fun o => decide (AccountedFor o.lines "Amazon EC2" (.ofNat 150))) = some false := by
    decide +kernel
  have hcost : (usageAndFee ["AWS Usage"]).recordTypes.observedCosts.value?.map
      (·.get? "Amazon EC2") = some (some (.ofNat 150)) := by
    decide +kernel
  obtain ⟨o, ho, hnot⟩ := Option.map_eq_some_iff.mp hvalue
  obtain ⟨observed, hobserved, hget⟩ := Option.map_eq_some_iff.mp hcost
  have ho := Billing.value?_eq_some.mp ho
  obtain ⟨m, _, _, _, hbills, -⟩ := outcome_returns ho
  exact ⟨o, m, observed, ho, hbills.metrics, Billing.value?_eq_some.mp hobserved,
    not_needsConversion_usageAndFee _, hget, of_decide_eq_false hnot⟩

end AccountPass

end CostJournal
