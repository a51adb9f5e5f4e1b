import CostJournal.Json.Decode

/-!
# Cost reports

The answer to a cost and usage query: rows of dimension keys and metric amounts in time buckets, and
the grouping and filter of the query. Amounts stay the texts that the provider wrote.
-/

namespace CostJournal

namespace Dimension

def linkedAccount : String := "LINKED_ACCOUNT"

def service : String := "SERVICE"

def recordType : String := "RECORD_TYPE"

def invoicingEntity : String := "INVOICING_ENTITY"

def billingEntity : String := "BILLING_ENTITY"

end Dimension

/-- The metric that the reconciliation reads. -/
def unblendedCost : String := "UnblendedCost"

structure MetricValue where
  amount : String
  unit : Option String
deriving DecidableEq

/-- A row: its dimension keys and its metrics by name. -/
structure Group where
  keys : List String
  metrics : SortedMap MetricValue
deriving DecidableEq

structure TimePeriod where
  start : String
  «end» : String
deriving DecidableEq

/-- The rows of one time bucket. -/
structure ResultByTime where
  timePeriod : Option TimePeriod
  groups : List Group
  estimated : Option Bool
deriving DecidableEq

structure Report where
  resultsByTime : List ResultByTime
deriving DecidableEq

/-- A dimension by which a query groups its rows. -/
structure GroupDefinition where
  kind : String
  key : String
deriving DecidableEq

/-- A query keeps the rows with one of `values` for the dimension `key`. -/
structure ReportFilter where
  key : String
  values : List String
deriving DecidableEq

namespace Group

/-- A row of two keys and an unblended cost. -/
def unblended (key0 key1 amount : String) : Group :=
  ⟨[key0, key1], SortedMap.empty.insert unblendedCost ⟨amount, some "USD"⟩⟩

def unblendedAmount? (g : Group) : Option String := (g.metrics.get? unblendedCost).map (·.amount)

/-- The key that the rows of a report are told apart by. -/
def secondaryKey? (g : Group) : Option String := g.keys[1]?

end Group

namespace Report

def empty : Report := ⟨[]⟩

instance : Inhabited Report := ⟨empty⟩

def ofGroups (groups : List Group) : Report := ⟨[⟨none, groups, none⟩]⟩

/-- The rows of every bucket, in order. -/
def groups (r : Report) : List Group := r.resultsByTime.flatMap (·.groups)

end Report

def GroupDefinition.dimension (key : String) : GroupDefinition := ⟨"DIMENSION", key⟩

open Json

def MetricValue.ofJson? (j : Json) : Option MetricValue := do
  let r ← j.record? ["Amount", "Unit"]
  return ⟨← r.required "Amount" text?, ← r.optional "Unit" text?⟩

def MetricValue.toJson (m : MetricValue) : Json :=
  .object ([("Amount", .string m.amount)] ++ field? "Unit" .string m.unit)

def Group.ofJson? (j : Json) : Option Group := do
  let r ← j.record? ["Keys", "Metrics"]
  return ⟨← r.withDefault "Keys" (list? text?) [], ← r.withDefault "Metrics" (map? MetricValue.ofJson?) .empty⟩

def Group.toJson (g : Group) : Json :=
  .object [("Keys", ofList .string g.keys), ("Metrics", ofMap MetricValue.toJson g.metrics)]

def TimePeriod.ofJson? (j : Json) : Option TimePeriod := do
  let r ← j.record? ["Start", "End"]
  return ⟨← r.required "Start" text?, ← r.required "End" text?⟩

def TimePeriod.toJson (t : TimePeriod) : Json :=
  .object [("Start", .string t.start), ("End", .string t.end)]

def ResultByTime.ofJson? (j : Json) : Option ResultByTime := do
  let r ← j.record? ["TimePeriod", "Groups", "Estimated"]
  return ⟨← r.optional "TimePeriod" TimePeriod.ofJson?, ← r.withDefault "Groups" (list? Group.ofJson?) [],
    ← r.optional "Estimated" flag?⟩

def ResultByTime.toJson (t : ResultByTime) : Json :=
  .object (field? "TimePeriod" TimePeriod.toJson t.timePeriod
    ++ [("Groups", ofList Group.toJson t.groups)] ++ field? "Estimated" .bool t.estimated)

def Report.ofJson? (j : Json) : Option Report := do
  let r ← j.record? ["ResultsByTime"]
  return ⟨← r.withDefault "ResultsByTime" (list? ResultByTime.ofJson?) []⟩

def Report.toJson (r : Report) : Json :=
  .object [("ResultsByTime", ofList ResultByTime.toJson r.resultsByTime)]

def GroupDefinition.ofJson? (j : Json) : Option GroupDefinition := do
  let r ← j.record? ["Type", "Key"]
  return ⟨← r.required "Type" text?, ← r.required "Key" text?⟩

def GroupDefinition.toJson (g : GroupDefinition) : Json :=
  .object [("Type", .string g.kind), ("Key", .string g.key)]

def ReportFilter.ofJson? (j : Json) : Option ReportFilter := do
  let r ← j.record? ["Dimensions"]
  r.required "Dimensions" fun d => do
    let r ← d.record? ["Key", "Values"]
    return ⟨← r.required "Key" text?, ← r.required "Values" (list? text?)⟩

def ReportFilter.toJson (f : ReportFilter) : Json :=
  .object [("Dimensions", .object [("Key", .string f.key), ("Values", ofList .string f.values)])]

end CostJournal
