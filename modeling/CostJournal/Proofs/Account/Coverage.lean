import CostJournal.Proofs.Account.Pass
import CostJournal.Proofs.Text.Bytes

/-!
# Every observed service is in a line

`LineBuilder.Covers` says how the lines of an account stand to the observed costs: a service that no
item names is flagged once, and every other one not at all. `lines_cover_observed` gives it for every
pass over an account whose id has no slash; the search for unmatched services then finds nothing more.
-/

namespace CostJournal

theorem filter_eq_singleton {α : Type} {f : α → String} {xs : List α} {x : α} (h : (xs.map f).Nodup)
    (hx : x ∈ xs) : xs.filter (f · = f x) = [x] := by
  induction xs with
  | nil => cases hx
  | cons y ys ih =>
    obtain ⟨hy, hys⟩ := List.nodup_cons.mp h
    rcases List.mem_cons.mp hx with rfl | hx
    · have hnone : ys.filter (f · = f x) = [] := by
        refine List.filter_eq_nil_iff.mpr fun z hz => ?_
        simpa using fun heq : f z = f x => hy (heq ▸ List.mem_map_of_mem hz)
      simp [hnone]
    · have hne : f y ≠ f x := fun heq => hy (heq ▸ List.mem_map_of_mem hx)
      simp [hne, ih hys hx]

namespace LineBuilder
variable {b : LineBuilder} {observed : SortedMap Decimal} {named unmatched : List JournalLine}

/-- The services that `named` leaves out are flagged once each, in byte order, and no others are. -/
structure Covers (b : LineBuilder) (observed : SortedMap Decimal) (named unmatched : List JournalLine) :
    Prop where
  once : ∀ service amount, observed.get? service = some amount → service ∉ named.map (·.serviceName) →
    ∃ l, unmatched.filter (·.serviceName = service) = [l] ∧ b.Flags service amount l
  notNamed : ∀ l ∈ unmatched, l.serviceName ∉ named.map (·.serviceName)
  observed : ∀ l ∈ unmatched, l.serviceName ∈ observed.keys
  ordered : unmatched.Pairwise fun l l' => bytesOf l.serviceName < bytesOf l'.serviceName

theorem covers_of_unmatchedLines (h : b.unmatchedLines observed named = .ok unmatched)
    (hnamed : ∀ service, isNamed named b.accountId service = true ↔ service ∈ named.map (·.serviceName)) :
    b.Covers observed named unmatched := by
  have hmap : unmatched.map (·.serviceName) =
      observed.keys.filter fun s => !isNamed named b.accountId s := map_serviceName_unmatchedLines h
  have hmem : ∀ l ∈ unmatched, l.serviceName ∈ observed.keys ∧ l.serviceName ∉ named.map (·.serviceName) := by
    intro l hl
    have hs : l.serviceName ∈ unmatched.map (·.serviceName) := List.mem_map_of_mem hl
    rw [hmap, List.mem_filter, Bool.not_eq_true', ← Bool.not_eq_true, hnamed] at hs
    exact hs
  have hpairwise : (unmatched.map (·.serviceName)).Pairwise (· < ·) :=
    hmap ▸ observed.pairwise_keys.filter _
  refine ⟨fun service amount hget hnot => ?_, fun l hl => (hmem l hl).2, fun l hl => (hmem l hl).1, ?_⟩
  · have hs : service ∈ unmatched.map (·.serviceName) := by
      rw [hmap, List.mem_filter, Bool.not_eq_true', ← Bool.not_eq_true, hnamed]
      exact ⟨SortedMap.mem_keys.mpr ⟨amount, hget⟩, hnot⟩
    obtain ⟨l, hl, rfl⟩ := List.mem_map.mp hs
    -- the line flags what is observed under its name, which is `amount`
    obtain ⟨amount', hget', hflags⟩ := flags_of_mem_unmatchedLines h hl
    rw [hget] at hget'
    cases hget'
    exact ⟨l, filter_eq_singleton (hpairwise.imp fun hlt => Std.ne_of_lt hlt) hl, hflags⟩
  · exact (List.pairwise_map.mp hpairwise).imp fun hlt => lt_iff_bytesOf_lt.mp hlt

/-- When every observed service is named, the search for unmatched services finds none. -/
theorem unmatchedLines_eq_nil {lines : List JournalLine}
    (h : ∀ service ∈ observed.keys, isNamed lines b.accountId service = true) :
    b.unmatchedLines observed lines = .ok [] := by
  have hnone : (observed.entries.filter fun e => !isNamed lines b.accountId e.1) = [] := by
    refine List.filter_eq_nil_iff.mpr fun e he => ?_
    rw [h e.1 (List.mem_map_of_mem he)]
    simp
  rw [unmatchedLines_eq_ok, hnone]
  exact .nil

end LineBuilder

namespace AccountPass
variable {p : AccountPass} {table : ProcessorTable} {m : AccountMetrics} {observed : SortedMap Decimal}
  {billed : List (List JournalLine)} {unmatched : List JournalLine}

theorem Bills.covers (h : p.Bills table m observed billed unmatched) (hslash : '/' ∉ p.accountId.toList) :
    (p.builder m).Covers observed billed.flatten unmatched := by
  refine LineBuilder.covers_of_unmatchedLines h.unmatched fun service => ?_
  rw [h.map_serviceName_billed]
  exact (h.isNamed_billed service).trans (and_iff_right hslash)

theorem Bills.unmatchedLines_eq_nil (h : p.Bills table m observed billed unmatched)
    (hslash : '/' ∉ p.accountId.toList) :
    (p.builder m).unmatchedLines observed (billed.flatten ++ unmatched) = .ok [] := by
  refine LineBuilder.unmatchedLines_eq_nil fun service hs => ?_
  refine (isNamed_iff fun l hl => ?_).mpr ⟨hslash, ?_⟩
  · rcases List.mem_append.mp hl with hl | hl
    · exact h.accountId_billed l hl
    · exact h.accountId_unmatched l hl
  · rw [List.map_append, h.map_serviceName_billed, h.map_serviceName_flagged, List.mem_append]
    by_cases hnamed : service ∈ p.named table m
    · exact .inl hnamed
    · exact .inr (List.mem_filter.mpr ⟨hs, by simp [hnamed]⟩)

/-- The lines of a pass are those of its items in order, and behind them one for each observed service
that these leave out. -/
theorem lines_cover_observed {logged : Bool} {o : AccountOutcome} (hslash : '/' ∉ p.accountId.toList)
    (h : (p.outcome table logged).Returns o) :
    ∃ m observed billed unmatched,
      AccountMetrics.build p.accountId p.marketplace p.recordTypes p.invoiceEntities = .ok m ∧
      p.recordTypes.observedCosts.Returns observed ∧
      List.Forall₂ (ItemBills table (p.builder m)) p.items billed ∧
      o.lines = billed.flatten ++ unmatched ∧
      (p.builder m).Covers observed billed.flatten unmatched ∧
      (p.builder m).unmatchedLines observed o.lines = .ok [] := by
  obtain ⟨m, observed, billed, unmatched, hbills, hlines⟩ := outcome_returns h
  refine ⟨m, observed, billed, unmatched, hbills.metrics, hbills.costs, hbills.lines, hlines, ?_, ?_⟩
  · exact hbills.covers hslash
  · rw [hlines]
    exact hbills.unmatchedLines_eq_nil hslash

/-- A service with usage, two support products between which the support item cannot choose, and a fee
that nothing bills. -/
def twoSupports : AccountPass :=
  ofCosts ["AWS Other services", "AWS Support"]
    [("Usage", "Amazon EC2", "100"), ("Support", "AWS Support (Business)", "9"),
      ("Support", "AWS Support (Developer)", "3"), ("Recurring", "Amazon S3", "20")]

theorem lines_cover_observed_twoSupports : '/' ∉ twoSupports.accountId.toList ∧
    ∃ o, (twoSupports.outcome (Processor.table {}) true).Returns o ∧
      o.lines.map (fun l => (l.serviceName, l.itemSearch.value, l.error.isSome)) =
        [("Amazon EC2", "AWS Other services", false), ("AWS Support (Business)", "AWS Support", true),
          ("AWS Support (Developer)", itemNotFound, true), ("Amazon S3", itemNotFound, true)] ∧
      ∃ m observed billed unmatched,
        AccountMetrics.build twoSupports.accountId twoSupports.marketplace twoSupports.recordTypes
          twoSupports.invoiceEntities = .ok m ∧
        twoSupports.recordTypes.observedCosts.Returns observed ∧
        List.Forall₂ (ItemBills (Processor.table {}) (twoSupports.builder m)) twoSupports.items billed ∧
        o.lines = billed.flatten ++ unmatched ∧
        (twoSupports.builder m).Covers observed billed.flatten unmatched ∧
        (twoSupports.builder m).unmatchedLines observed o.lines = .ok [] := by
  have hslash : '/' ∉ twoSupports.accountId.toList := by decide
  have hlines : (twoSupports.outcome (Processor.table {}) true).value?.map
      (fun o => o.lines.map fun l => (l.serviceName, l.itemSearch.value, l.error.isSome)) = some
        [("Amazon EC2", "AWS Other services", false), ("AWS Support (Business)", "AWS Support", true),
          ("AWS Support (Developer)", itemNotFound, true), ("Amazon S3", itemNotFound, true)] := by
    decide +kernel
  obtain ⟨o, ho, hlines⟩ := Option.map_eq_some_iff.mp hlines
  have ho := Billing.value?_eq_some.mp ho
  exact ⟨hslash, o, ho, hlines, lines_cover_observed hslash ho⟩

end AccountPass

end CostJournal
