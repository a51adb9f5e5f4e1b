import CostJournal.Metrics
import CostJournal.Proofs.Returns

/-!
# Families of amounts

A family takes a row wherever its record type stands among the keys of the row, and of several rows of a service
the last one that is not zero: `amount_of_build`. Rows have their record type first, so this is another family's row
only where a service is named as a record type, as in `not_ownRecordType_supportService`.
-/

namespace CostJournal

/-- The amount of a row, if it has one that is read and is not zero. -/
def Group.nonzeroAmount? (g : Group) : Option Decimal :=
  g.unblendedAmount?.bind fun raw => (Amount.ofReport raw).toOption.filter (!·.isZero)

namespace Report
variable {r : Report} {key service : String} {rows : List (String × String)} {m m' : SortedMap Decimal}

/-- The amount of the last row, over all time buckets, that has such keys, the service for its second key, and an
amount that is not zero. -/
def lastAmount? (r : Report) (covers : List String → Prop) [DecidablePred covers] (service : String) : Option Decimal :=
  r.groups.reverse.findSome? fun g =>
    if covers g.keys ∧ g.secondaryKey? = some service then g.nonzeroAmount? else none

/-- What a row of a second key and an amount text puts under a service. -/
def rowAmount? (service : String) (row : String × String) : Option Decimal :=
  if row.1 = service then (Amount.ofReport row.2).toOption.filter (!·.isZero) else none

theorem get?_putAmount {row : String × String} (h : putAmount m row = .ok m') :
    m'.get? service = (rowAmount? service row).or (m.get? service) := by
  obtain ⟨amount, hamount, h⟩ := bind_eq_ok.mp h
  rw [pure_eq_ok] at h
  subst h
  have hread : (Amount.ofReport row.2).toOption.filter (!·.isZero) =
      if amount.isZero then none else some amount := by
    rw [hamount]
    cases hzero : amount.isZero <;> simp [Except.toOption, Option.filter, hzero]
  rw [rowAmount?, hread]
  by_cases hzero : amount.isZero
  · rw [if_pos hzero, if_pos hzero, ite_self, Option.none_or]
  · rw [if_neg hzero, if_neg hzero, SortedMap.get?_insert]
    by_cases hservice : row.1 = service
    · rw [if_pos hservice, if_pos hservice.symm, Option.some_or]
    · rw [if_neg hservice, if_neg (Ne.symm hservice), Option.none_or]

theorem get?_foldlM_putAmount (h : rows.foldlM putAmount m = .ok m') :
    m'.get? service = (rows.reverse.findSome? (rowAmount? service)).or (m.get? service) := by
  induction rows generalizing m with
  | nil =>
    rw [List.foldlM_nil, pure_eq_ok] at h
    rw [h]
    rfl
  | cons row rows ih =>
    rw [List.foldlM_cons] at h
    obtain ⟨m₁, hput, h⟩ := bind_eq_ok.mp h
    rw [ih h, get?_putAmount hput, List.reverse_cons, List.findSome?_append, Option.or_assoc]
    congr 2
    simp

theorem get?_amountsByKey (h : r.amountsByKey key = .ok m) :
    m.get? service = r.lastAmount? (key ∈ ·) service := by
  rw [get?_foldlM_putAmount h, SortedMap.get?_empty, Option.or_none, rowsOf, ← List.filterMap_reverse,
    ← List.head?_filterMap, List.filterMap_filterMap, List.head?_filterMap]
  refine congrArg (List.findSome? · _) (funext fun g => ?_)
  by_cases hkey : key ∈ g.keys
  · rw [List.contains_eq_mem, decide_eq_true hkey, if_pos rfl, Group.nonzeroAmount?]
    match g.secondaryKey?, g.unblendedAmount? with
    | some name, some raw => simp [hkey, rowAmount?]
    | some _, none => simp
    | none, _ => simp
  · rw [List.contains_eq_mem, decide_eq_false hkey, if_neg Bool.false_ne_true, if_neg fun h => hkey h.1]
    rfl

/-- Which keys are covered matters only for the rows of the service. -/
theorem lastAmount?_congr {covers covers' : List String → Prop} [DecidablePred covers] [DecidablePred covers']
    (h : ∀ g ∈ r.groups, g.secondaryKey? = some service → (covers g.keys ↔ covers' g.keys)) :
    r.lastAmount? covers service = r.lastAmount? covers' service := by
  rw [lastAmount?, lastAmount?, ← List.head?_filterMap, ← List.head?_filterMap]
  refine congrArg List.head? (List.filterMap_congr fun g hg => ?_)
  by_cases hservice : g.secondaryKey? = some service
  · simp only [h g (List.mem_reverse.mp hg) hservice]
  · rw [if_neg fun hg => hservice hg.2, if_neg fun hg => hservice hg.2]

end Report

namespace Metric

/-- A row of the report by record types that the family takes in. -/
def Covers (metric : Metric) (g : Group) : Prop := ∃ recordType ∈ g.keys, metric.recordType? = some recordType

theorem mem_all (metric : Metric) : metric ∈ all := by
  cases metric <;> decide

theorem recordType?_injective : Function.Injective recordType? := by
  have hall : ∀ metric ∈ all, ∀ metric' ∈ all, metric.recordType? = metric'.recordType? → metric = metric' := by
    decide
  exact fun metric metric' => hall metric metric.mem_all metric' metric'.mem_all

end Metric

namespace AccountMetrics
variable {accountId : String} {marketplace recordTypes invoiceEntities : Report} {m m' : AccountMetrics}
  {metrics : List Metric} {metric : Metric}

theorem services_set (m : AccountMetrics) (metric : Metric) (values : SortedMap Decimal) (k : Metric) :
    (m.set metric values).services k = if k = metric then values else m.services k := rfl

theorem familyOf_foldlM
    (h : metrics.foldlM
      (fun m metric => do return m.set metric (← familyOf accountId marketplace recordTypes metric)) m = .ok m')
    (hread : metric ∈ metrics ∨ familyOf accountId marketplace recordTypes metric = .ok (m.services metric)) :
    familyOf accountId marketplace recordTypes metric = .ok (m'.services metric) := by
  induction metrics generalizing m with
  | nil =>
    rw [List.foldlM_nil, pure_eq_ok] at h
    exact h ▸ hread.resolve_left List.not_mem_nil
  | cons read metrics ih =>
    rw [List.foldlM_cons] at h
    obtain ⟨m₁, hset, h⟩ := bind_eq_ok.mp h
    obtain ⟨values, hvalues, hset⟩ := bind_eq_ok.mp hset
    rw [pure_eq_ok] at hset
    subst hset
    refine ih h ?_
    by_cases heq : metric = read
    · subst heq
      rw [hvalues, services_set, if_pos rfl]
      exact .inr rfl
    · rw [services_set, if_neg heq]
      exact hread.imp_left fun hmem => (List.mem_cons.mp hmem).resolve_left heq

theorem familyOf_of_build (h : build accountId marketplace recordTypes invoiceEntities = .ok m) (metric : Metric) :
    familyOf accountId marketplace recordTypes metric = .ok (m.services metric) :=
  familyOf_foldlM h (.inl metric.mem_all)

theorem amount_eq_lastAmount? (h : build accountId marketplace recordTypes invoiceEntities = .ok m)
    {recordType : String} (hmetric : metric.recordType? = some recordType) (service : String) :
    m.amount metric service = (recordTypes.lastAmount? (recordType ∈ ·) service).getD .zero := by
  have hfamily := familyOf_of_build h metric
  rw [familyOf, hmetric] at hfamily
  rw [amount, Report.get?_amountsByKey hfamily]

/-- The amount of a family for a service is that of the last row which has the family's record type among its keys,
the service for its second key, and an amount other than zero. Where no row of the service has that record
type after its first key only, the first key alone decides. And two families share a row only if it has the
record type of one of them after its first key. -/
theorem amount_of_build (h : build accountId marketplace recordTypes invoiceEntities = .ok m) :
    (∀ metric recordType, metric.recordType? = some recordType → ∀ service,
      m.amount metric service = (recordTypes.lastAmount? (recordType ∈ ·) service).getD .zero ∧
        ((∀ g ∈ recordTypes.groups, g.secondaryKey? = some service → recordType ∈ g.keys →
            g.keys.head? = some recordType) →
          m.amount metric service = (recordTypes.lastAmount? (·.head? = some recordType) service).getD .zero)) ∧
      ∀ g ∈ recordTypes.groups, ∀ metric metric' : Metric, metric ≠ metric' → metric.Covers g → metric'.Covers g →
        ∃ recordType ∈ g.keys.tail, metric.recordType? = some recordType ∨ metric'.recordType? = some recordType := by
  refine ⟨fun metric recordType hmetric service => ⟨amount_eq_lastAmount? h hmetric service, fun hfirst => ?_⟩, ?_⟩
  · have hkeys : recordTypes.lastAmount? (recordType ∈ ·) service =
        recordTypes.lastAmount? (·.head? = some recordType) service :=
      Report.lastAmount?_congr fun g hg hservice => ⟨hfirst g hg hservice, List.mem_of_mem_head?⟩
    rw [amount_eq_lastAmount? h hmetric, hkeys]
  · rintro g - metric metric' hne ⟨recordType, hmem, hmetric⟩ ⟨recordType', hmem', hmetric'⟩
    match hkeys : g.keys with
    | [] => exact absurd (hkeys ▸ hmem) List.not_mem_nil
    | key :: keys =>
      rw [hkeys] at hmem hmem'
      rcases List.mem_cons.mp hmem with rfl | hmem
      · rcases List.mem_cons.mp hmem' with rfl | hmem'
        · exact absurd (Metric.recordType?_injective (hmetric.trans hmetric'.symm)) hne
        · exact ⟨recordType', hmem', .inr hmetric'⟩
      · exact ⟨recordType, hmem, .inl hmetric⟩

/-- Two time buckets, of which the second one takes the usage back and then has it again. -/
def twoBuckets : Report where
  resultsByTime :=
    [⟨none, [.unblended "Usage" "Amazon EC2" "1", .unblended "Support" "Amazon EC2" "5"], none⟩,
      ⟨none, [.unblended "Usage" "Amazon EC2" "2,50", .unblended "Usage" "Amazon EC2" "0"], none⟩]

theorem amount_of_build_twoBuckets :
    ∃ m, build "210987654321" .empty twoBuckets .empty = .ok m ∧ (m.amount .usage "Amazon EC2").toText = "2.50" ∧
      (∀ metric recordType, metric.recordType? = some recordType → ∀ service,
        m.amount metric service = (twoBuckets.lastAmount? (recordType ∈ ·) service).getD .zero ∧
          ((∀ g ∈ twoBuckets.groups, g.secondaryKey? = some service → recordType ∈ g.keys →
              g.keys.head? = some recordType) →
            m.amount metric service = (twoBuckets.lastAmount? (·.head? = some recordType) service).getD .zero)) ∧
        ∀ g ∈ twoBuckets.groups, ∀ metric metric' : Metric, metric ≠ metric' → metric.Covers g → metric'.Covers g →
          ∃ recordType ∈ g.keys.tail, metric.recordType? = some recordType ∨ metric'.recordType? = some recordType := by
  have htext : (build "210987654321" .empty twoBuckets .empty).toOption.map
      (fun m => (m.amount .usage "Amazon EC2").toText) = some "2.50" := by
    decide +kernel
  obtain ⟨m, hm, hamount⟩ := Option.map_eq_some_iff.mp htext
  have hbuild := toOption_eq_some.mp hm
  exact ⟨m, hbuild, hamount, amount_of_build hbuild⟩

/-- The usage of a service that is named as a record type. -/
def supportService : Report := .ofGroups [.unblended "Usage" "Support" "100"]

/-- The row of usage is a row of support as well. -/
theorem not_ownRecordType_supportService :
    ∃ m, build "210987654321" .empty supportService .empty = .ok m ∧
      m.amount .usage "Support" = .ofNat 100 ∧ m.amount .support "Support" = .ofNat 100 ∧
      m.amount .support "Support" ≠
        (supportService.lastAmount? (·.head? = Metric.support.recordType?) "Support").getD .zero := by
  have hamounts : (build "210987654321" .empty supportService .empty).toOption.map
      (fun m => (m.amount .usage "Support", m.amount .support "Support")) = some (.ofNat 100, .ofNat 100) := by
    decide +kernel
  have hnone : supportService.lastAmount? (·.head? = Metric.support.recordType?) "Support" = none := by
    decide +kernel
  obtain ⟨m, hm, hamounts⟩ := Option.map_eq_some_iff.mp hamounts
  obtain ⟨husage, hsupport⟩ := Prod.mk.inj hamounts
  refine ⟨m, toOption_eq_some.mp hm, husage, hsupport, ?_⟩
  rw [hsupport, hnone]
  decide

end AccountMetrics

end CostJournal
