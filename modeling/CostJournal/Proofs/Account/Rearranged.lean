import CostJournal.Proofs.Account.Costs
import CostJournal.Proofs.Account.Families
import CostJournal.Proofs.Account.Pass

/-!
# Rows in another order

Reports may have their rows in any order and in any time buckets. A look-up into a report finds the last row, so if
no two rows are of one look-up the order does not matter (`amountsByKey_of_perm`), and neither does it for costs that
are added without rounding (`Report.observedCosts_alike`). The rest of a pass reads only the metrics and the costs:
`outcome_rearranged`.
-/

namespace CostJournal

namespace Report
variable {r r' : Report} {key service : String} {rows : List (String × String)} {m : SortedMap Decimal}

/-- The rows have two keys each, and no two of them have the same ones. -/
structure IsTable (r : Report) : Prop where
  twoKeys : ∀ g ∈ r.groups, g.keys.length = 2
  distinct : (r.groups.map (·.keys)).Nodup

/-- The row of a key and a service, where services are not named as the key. -/
theorem IsTable.keys_eq (h : r.IsTable) {g : Group} (hg : g ∈ r.groups) (hkey : key ∈ g.keys)
    (hservice : g.secondaryKey? = some service) (hne : g.secondaryKey? ≠ some key) : g.keys = [key, service] := by
  obtain ⟨first, second, hkeys⟩ := List.length_eq_two.mp (h.twoKeys g hg)
  rw [Group.secondaryKey?, hkeys] at hservice hne
  cases hservice
  rw [hkeys] at hkey
  rcases List.mem_cons.mp hkey with rfl | hkey
  · exact hkeys
  · exact absurd (congrArg some (List.mem_singleton.mp hkey).symm) hne

theorem lastAmount?_of_perm (h : r.IsTable) (hkey : ∀ g ∈ r.groups, g.secondaryKey? ≠ some key)
    (hperm : r.groups.Perm r'.groups) : r.lastAmount? (key ∈ ·) service = r'.lastAmount? (key ∈ ·) service := by
  refine findSome?_of_perm ((List.reverse_perm _).trans (hperm.trans (List.reverse_perm _).symm)) ?_
  intro g hg g' hg' a a' ha ha'
  have hg := List.mem_reverse.mp hg
  have hg' := List.mem_reverse.mp hg'
  obtain ⟨⟨hmem, hservice⟩, ha⟩ := Option.ite_none_right_eq_some.mp ha
  obtain ⟨⟨hmem', hservice'⟩, ha'⟩ := Option.ite_none_right_eq_some.mp ha'
  -- both rows are of the key and the service, and no two rows of a table have the same keys
  have hkeys := h.keys_eq hg hmem hservice (hkey g hg)
  have hkeys' := h.keys_eq hg' hmem' hservice' (hkey g' hg')
  obtain rfl := List.inj_on_of_nodup_map h.distinct hg hg' (hkeys.trans hkeys'.symm)
  exact Option.some.inj (ha.symm.trans ha')

theorem foldlM_putAmount_isOk : (∃ m', rows.foldlM putAmount m = .ok m') ↔
    ∀ row ∈ rows, ∃ amount, Amount.ofReport row.2 = .ok amount := by
  induction rows generalizing m with
  | nil => exact iff_of_true ⟨m, rfl⟩ nofun
  | cons row rows ih =>
    rw [List.forall_mem_cons, List.foldlM_cons]
    constructor
    · rintro ⟨m', h⟩
      obtain ⟨m₁, hput, h⟩ := bind_eq_ok.mp h
      obtain ⟨amount, hamount, -⟩ := bind_eq_ok.mp hput
      exact ⟨⟨amount, hamount⟩, ih.mp ⟨m', h⟩⟩
    · rintro ⟨⟨amount, hamount⟩, hrows⟩
      rw [putAmount, hamount]
      exact ih.mpr hrows

theorem amountsByKey_of_perm (h : r.IsTable) (hkey : ∀ g ∈ r.groups, g.secondaryKey? ≠ some key)
    (hperm : r.groups.Perm r'.groups) : (r.amountsByKey key).toOption = (r'.amountsByKey key).toOption := by
  have hrows : (r.rowsOf key).Perm (r'.rowsOf key) := hperm.filterMap _
  have hread : (∃ m, r.amountsByKey key = .ok m) ↔ ∃ m, r'.amountsByKey key = .ok m := by
    rw [amountsByKey, amountsByKey, foldlM_putAmount_isOk, foldlM_putAmount_isOk]
    simp only [hrows.mem_iff]
  match hm : r.amountsByKey key, hm' : r'.amountsByKey key with
  | .ok m, .ok m' =>
    refine congrArg some (SortedMap.eq_of_get?_eq fun service => ?_)
    rw [get?_amountsByKey hm, get?_amountsByKey hm', lastAmount?_of_perm h hkey hperm]
  | .error _, .error _ => rfl
  | .ok m, .error _ =>
    obtain ⟨m', h'⟩ := hread.mp ⟨m, hm⟩
    cases hm'.symm.trans h'
  | .error _, .ok m' =>
    obtain ⟨m, h⟩ := hread.mpr ⟨m', hm'⟩
    cases hm.symm.trans h

theorem invoicingEntities_of_perm (hone : ∀ g ∈ r.groups, ∀ g' ∈ r.groups, g.keys.head? = g'.keys.head? →
    g.keys = g'.keys) (hperm : r.groups.Perm r'.groups) : r.invoicingEntities = r'.invoicingEntities := by
  refine SortedMap.ofList_of_perm (hperm.filterMap _) ?_
  intro e he e' he' hservice
  obtain ⟨g, hg, hkeys⟩ := List.mem_filterMap.mp he
  obtain ⟨g', hg', hkeys'⟩ := List.mem_filterMap.mp he'
  match hg₂ : g.keys, hg₂' : g'.keys with
  | service :: entity :: _, service' :: entity' :: _ =>
    rw [hg₂] at hkeys
    rw [hg₂'] at hkeys'
    cases hkeys
    cases hkeys'
    have heq := hone g hg g' hg' (by rw [hg₂, hg₂']; exact congrArg some hservice)
    rw [hg₂, hg₂'] at heq
    cases heq
    rfl
  | [], _ | [_], _ => simp [hg₂] at hkeys
  | _, [] | _, [_] => simp [hg₂'] at hkeys'

end Report

namespace AccountPass
variable {p q : AccountPass} {table : ProcessorTable} {logged : Bool}

/-- The reports are tables in which a service has one invoicing entity, and is not named as the account or as a record
type. -/
structure IsTabular (p : AccountPass) : Prop where
  marketplace : p.marketplace.IsTable
  recordTypes : p.recordTypes.IsTable
  invoiceEntities : p.invoiceEntities.IsTable
  oneEntity : ∀ g ∈ p.invoiceEntities.groups, ∀ g' ∈ p.invoiceEntities.groups, g.keys.head? = g'.keys.head? →
    g.keys = g'.keys
  noAccount : ∀ g ∈ p.marketplace.groups, g.secondaryKey? ≠ some p.accountId
  noRecordType : ∀ g ∈ p.recordTypes.groups, ∀ metric : Metric, g.secondaryKey? ≠ metric.recordType?

/-- The same pass, with the rows of its reports in another order or in other time buckets. -/
structure Rearranges (q p : AccountPass) : Prop where
  same : q = { p with
    marketplace := q.marketplace, recordTypes := q.recordTypes, invoiceEntities := q.invoiceEntities }
  marketplace : p.marketplace.groups.Perm q.marketplace.groups
  recordTypes : p.recordTypes.groups.Perm q.recordTypes.groups
  invoiceEntities : p.invoiceEntities.groups.Perm q.invoiceEntities.groups

theorem familyOf_of_perm (h : p.IsTabular) (hq : q.Rearranges p) (metric : Metric) :
    (AccountMetrics.familyOf p.accountId p.marketplace p.recordTypes metric).toOption =
      (AccountMetrics.familyOf p.accountId q.marketplace q.recordTypes metric).toOption := by
  unfold AccountMetrics.familyOf
  split
  next recordType hmetric =>
    exact Report.amountsByKey_of_perm h.recordTypes (fun g hg => hmetric ▸ h.noRecordType g hg metric) hq.recordTypes
  next => exact Report.amountsByKey_of_perm h.marketplace h.noAccount hq.marketplace

theorem metrics_of_perm (h : p.IsTabular) (hq : q.Rearranges p) :
    (AccountMetrics.build p.accountId p.marketplace p.recordTypes p.invoiceEntities).toOption =
      (AccountMetrics.build p.accountId q.marketplace q.recordTypes q.invoiceEntities).toOption := by
  rw [AccountMetrics.build, AccountMetrics.build,
    Report.invoicingEntities_of_perm h.oneEntity hq.invoiceEntities]
  refine toOption_foldlM (fun m metric => ?_) _ _
  exact toOption_bind (familyOf_of_perm h hq metric) fun _ => rfl

theorem lines_rearranged (h : p.IsTabular) (hq : q.Rearranges p) (hadds : p.recordTypes.AddsExactly)
    (hadds' : q.recordTypes.AddsExactly) : Billing.Alike (p.lines table logged) (q.lines table logged) := by
  have hmetrics := metrics_of_perm h hq
  have hcosts := Report.observedCosts_alike (hq.recordTypes.filterMap _) hadds hadds'
  rw [hq.same]
  unfold lines
  refine .bind (.ofExcept hmetrics) fun m => .bind (.refl _) fun billed => ?_
  exact .bind hcosts fun observed => .refl _

theorem map_lines_outcome : (·.lines) <$> p.outcome table logged = p.lines table logged := by
  unfold outcome
  rw [map_bind]
  exact bind_pure _

/-- Where reports are tables and no addition has to round, their rows can be put in another order or in other time
buckets: the lines stay the same, and so does whether there are any. What drops a zero in one order may lose a digit
in another one, so either all sums of the pass have room for all places, or no sum of either order loses anything. -/
theorem outcome_rearranged (h : p.IsTabular) (hq : q.Rearranges p)
    (hexact : p.recordTypes.AddsInFull ∨ p.recordTypes.AddsExactly ∧ q.recordTypes.AddsExactly)
    (table : ProcessorTable) (logged : Bool) :
    Billing.Alike ((·.lines) <$> p.outcome table logged) ((·.lines) <$> q.outcome table logged) := by
  rw [map_lines_outcome, map_lines_outcome]
  rcases hexact with hfull | ⟨hadds, hadds'⟩
  · exact lines_rearranged h hq (hfull.exact_of_perm (.refl _)) (hfull.exact_of_perm (hq.recordTypes.filterMap _))
  · exact lines_rearranged h hq hadds hadds'

/-- An account with a purchase on the marketplace, usage, and a service with two fees that nothing bills. -/
def purchaseAndFees : AccountPass :=
  { ofCosts ["AWS Marketplace", "AWS Other services"]
      [("Usage", "Amazon EC2", "100"), ("Recurring", "Amazon S3", "0.50"), ("Fee", "Amazon S3", "2"),
        ("Tax", "Amazon S3", "0.48")] with
    marketplace := .ofGroups [.unblended "210987654321" "Scanner" "12.5", .unblended "310987654321" "Scanner" "7"]
    invoiceEntities := .ofGroups [.unblended "Amazon EC2" "Amazon Web Services, Inc." "100",
      .unblended "Amazon S3" "Amazon Web Services, Inc." "2.98"] }

/-- The last row first, and every row in a time bucket of its own. -/
def scattered (p : AccountPass) : AccountPass :=
  { p with
    marketplace := ⟨p.marketplace.groups.reverse.map fun g => ⟨none, [g], none⟩⟩
    recordTypes := ⟨p.recordTypes.groups.reverse.map fun g => ⟨none, [g], none⟩⟩
    invoiceEntities := ⟨p.invoiceEntities.groups.reverse.map fun g => ⟨none, [g], none⟩⟩ }

theorem outcome_rearranged_scattered :
    purchaseAndFees.IsTabular ∧ purchaseAndFees.scattered.Rearranges purchaseAndFees ∧
      purchaseAndFees.recordTypes.AddsInFull ∧
      (∃ o, (purchaseAndFees.outcome (Processor.table {}) true).Returns o ∧
        o.lines.map (fun l => (l.serviceName, l.amount.toText)) =
          [("Scanner", "12.5"), ("Amazon EC2", "100"), ("Amazon S3", "2.50")]) ∧
      Billing.Alike ((·.lines) <$> purchaseAndFees.outcome (Processor.table {}) true)
        ((·.lines) <$> purchaseAndFees.scattered.outcome (Processor.table {}) true) := by
  have htabular : purchaseAndFees.IsTabular := by
    refine ⟨⟨by decide, by decide⟩, ⟨by decide, by decide⟩, ⟨by decide, by decide⟩, by decide, by decide, ?_⟩
    have hall : ∀ g ∈ purchaseAndFees.recordTypes.groups, ∀ metric ∈ Metric.all,
        g.secondaryKey? ≠ metric.recordType? := by
      decide
    exact fun g hg metric => hall g hg metric metric.mem_all
  have hscattered : purchaseAndFees.scattered.Rearranges purchaseAndFees := ⟨rfl, by decide, by decide, by decide⟩
  have hfull : purchaseAndFees.recordTypes.AddsInFull := by decide +kernel
  have hvalue : (purchaseAndFees.outcome (Processor.table {}) true).value?.map
      (fun o => o.lines.map fun l => (l.serviceName, l.amount.toText)) =
        some [("Scanner", "12.5"), ("Amazon EC2", "100"), ("Amazon S3", "2.50")] := by
    decide +kernel
  obtain ⟨o, ho, hlines⟩ := Option.map_eq_some_iff.mp hvalue
  exact ⟨htabular, hscattered, hfull, ⟨o, Billing.value?_eq_some.mp ho, hlines⟩,
    outcome_rearranged htabular hscattered (.inl hfull) _ _⟩

/-- Two halves are added to the largest even magnitude without a loss only if they are added up first, and then the
zero of `1.0` has no room. -/
example :
    let rows : List Group := [.unblended "Usage" "Amazon EC2" "0.5", .unblended "Recurring" "Amazon EC2" "0.5",
      .unblended "Fee" "Amazon EC2" "79228162514264337593543950334"]
    (Report.ofGroups rows).observedCosts.value? ≠ (Report.ofGroups rows.reverse).observedCosts.value? := by
  decide +kernel

end AccountPass

end CostJournal
