import CostJournal.Generator.Account
import CostJournal.Proofs.Account.Lines
import CostJournal.Proofs.CutShort

/-!
# What items bill

The lines of an item, said without building lines: `Processor.billed` is the list of services and
amounts that a processor accepts, and `Processor.undecided?` the first service whose discount it cannot
judge, which ends it. `ItemBills` relates an item to its lines, one rule for each way an item can
go, and the lemmas below it read services and amounts off those lines.
-/

namespace CostJournal

namespace Processor
variable {p : Processor} {m : AccountMetrics} {b : LineBuilder} {sku : String} {e : String × Decimal}
  {ls : List JournalLine} {f : LineFailure}

/-- Whether an amount of a service is billed; what is excluded is not. -/
def verdict (p : Processor) (m : AccountMetrics) (e : String × Decimal) : Billing AmbiguousSupport Bool :=
  if p.isExcluded e.1 m then return false
  else p.validator.validate p.discount e.2 e.1 m p.tolerance

def accepts (p : Processor) (m : AccountMetrics) (e : String × Decimal) : Bool :=
  match (p.verdict m e).run with
  | .ok (.ok b) => b
  | _ => false

def isUndecided (p : Processor) (m : AccountMetrics) (e : String × Decimal) : Bool :=
  match (p.verdict m e).run with
  | .ok (.error _) => true
  | _ => false

/-- The services of the family that are billed, with their amounts. -/
def billed (p : Processor) (m : AccountMetrics) : List (String × Decimal) :=
  (m.services p.metric).entries.filter (p.accepts m)

/-- The first service whose discount cannot be judged. -/
def undecided? (p : Processor) (m : AccountMetrics) : Option String :=
  ((m.services p.metric).entries.find? (p.isUndecided m)).map (·.1)

theorem accepts_iff : p.accepts m e = true ↔ p.isExcluded e.1 m = false ∧
    (p.validator.validate p.discount e.2 e.1 m p.tolerance).Returns true := by
  unfold accepts verdict Billing.Returns
  cases p.isExcluded e.1 m with
  | true => exact iff_of_false nofun nofun
  | false =>
    rw [if_neg Bool.false_ne_true, eq_self, true_and]
    match (p.validator.validate p.discount e.2 e.1 m p.tolerance).run with
    | .ok (.ok _) => simp
    | .ok (.error _) => simp
    | .error _ => simp

theorem isUndecided_iff : p.isUndecided m e = true ↔ p.isExcluded e.1 m = false ∧
    ∃ a, (p.validator.validate p.discount e.2 e.1 m p.tolerance).Fails a := by
  unfold isUndecided verdict Billing.Fails
  cases p.isExcluded e.1 m with
  | true => exact iff_of_false nofun nofun
  | false =>
    rw [if_neg Bool.false_ne_true, eq_self, true_and]
    match (p.validator.validate p.discount e.2 e.1 m p.tolerance).run with
    | .ok (.ok _) => simp
    | .ok (.error _) => simp
    | .error _ => simp

theorem lineFor_returns (h : (p.lineFor b sku e.1 e.2).Returns ls) :
    p.isUndecided b.metrics e = false ∧
      ((p.accepts b.metrics e = true ∧ ∃ l, b.validLine e.1 e.2 sku = .ok l ∧ ls = [l]) ∨
        p.accepts b.metrics e = false ∧ ls = []) := by
  unfold lineFor at h
  unfold isUndecided accepts verdict
  split at h
  next hex =>
    rw [if_pos hex]
    exact ⟨rfl, .inr ⟨rfl, (Billing.returns_pure.mp h).symm⟩⟩
  next hex =>
    rw [if_neg hex]
    obtain ⟨r, hr, h⟩ := Billing.returns_bind.mp h
    rw [Billing.returns_liftM.mp hr]
    match r with
    | .error _ => exact absurd h Billing.returns_throw
    | .ok false => exact ⟨rfl, .inr ⟨rfl, (Billing.returns_pure.mp h).symm⟩⟩
    | .ok true =>
      obtain ⟨l, hl, h⟩ := Billing.returns_bind.mp h
      exact ⟨rfl, .inl ⟨rfl, l, Billing.returns_liftM.mp hl, (Billing.returns_pure.mp h).symm⟩⟩

theorem lineFor_fails_iff : (p.lineFor b sku e.1 e.2).Fails f ↔ p.isExcluded e.1 b.metrics = false ∧
    ∃ a, (p.validator.validate p.discount e.2 e.1 b.metrics p.tolerance).Fails a ∧ f = ⟨e.1, .zero, a.message⟩ := by
  unfold lineFor
  cases hex : p.isExcluded e.1 b.metrics with
  | true => exact iff_of_false Billing.fails_pure nofun
  | false =>
    rw [if_neg Bool.false_ne_true, Billing.fails_bind, or_iff_right Billing.fails_liftM, eq_self, true_and]
    simp only [Billing.returns_liftM]
    constructor
    · rintro ⟨r, hr, h⟩
      match r with
      | .error a => exact ⟨a, hr, (Billing.fails_throw.mp h).symm⟩
      | .ok false => exact absurd h Billing.fails_pure
      | .ok true =>
        rcases Billing.fails_bind.mp h with h | ⟨_, _, h⟩
        · exact absurd h Billing.fails_liftM
        · exact absurd h Billing.fails_pure
    · rintro ⟨a, ha, rfl⟩
      exact ⟨.error a, ha, Billing.fails_throw.mpr rfl⟩

theorem lineFor_fails (h : (p.lineFor b sku e.1 e.2).Fails f) :
    p.isUndecided b.metrics e = true ∧ f.serviceName = e.1 ∧ f.amount = .zero := by
  obtain ⟨hex, a, ha, rfl⟩ := lineFor_fails_iff.mp h
  exact ⟨isUndecided_iff.mpr ⟨hex, a, ha⟩, rfl, rfl⟩

theorem lines_of_lineFor {entries : List (String × Decimal)} {lss : List (List JournalLine)}
    (h : List.Forall₂ (fun e ls => (p.lineFor b sku e.1 e.2).Returns ls) entries lss) :
    (∀ e ∈ entries, p.isUndecided b.metrics e = false) ∧
      List.Forall₂ (fun e l => b.validLine e.1 e.2 sku = .ok l) (entries.filter (p.accepts b.metrics))
        lss.flatten := by
  induction h with
  | nil => exact ⟨by simp, .nil⟩
  | @cons e ls entries lss he _ ih =>
    obtain ⟨hund, hline⟩ := lineFor_returns he
    refine ⟨List.forall_mem_cons.mpr ⟨hund, ih.1⟩, ?_⟩
    rw [List.flatten_cons]
    rcases hline with ⟨hacc, l, hl, rfl⟩ | ⟨hacc, rfl⟩
    · rw [List.filter_cons_of_pos hacc]
      exact .cons hl ih.2
    · rw [List.filter_cons_of_neg (by simp [hacc])]
      exact ih.2

/-- The lines of a processor, one for each service it accepts. -/
theorem process_returns (h : (p.process b sku).Returns ls) :
    p.undecided? b.metrics = none ∧
      List.Forall₂ (fun e l => b.validLine e.1 e.2 sku = .ok l) (p.billed b.metrics) ls := by
  obtain ⟨lss, hlss, hls⟩ := Billing.returns_bind.mp h
  obtain ⟨hund, hlines⟩ := lines_of_lineFor (Billing.returns_mapM.mp hlss)
  rw [← Billing.returns_pure.mp hls, undecided?, Option.map_eq_none_iff, List.find?_eq_none]
  exact ⟨fun e he => by simp [hund e he], hlines⟩

/-- A processor fails at the first service that it cannot judge. -/
theorem process_fails (h : (p.process b sku).Fails f) : p.undecided? b.metrics = some f.serviceName := by
  rcases Billing.fails_bind.mp h with h | ⟨_, _, h⟩
  · obtain ⟨e, ⟨before, after, hentries, hbefore⟩, he⟩ := Billing.fails_mapM.mp h
    obtain ⟨hund, hname, -⟩ := lineFor_fails he
    rw [undecided?, hname, Option.map_eq_some_iff]
    refine ⟨e, List.find?_eq_some_iff_append.mpr ⟨hund, before, after, hentries, fun e' he' => ?_⟩, rfl⟩
    obtain ⟨_, hret⟩ := hbefore e' he'
    simp [(lineFor_returns hret).1]
  · exact absurd h Billing.fails_pure

end Processor

/-- The processor of an item, if its SKU has one. -/
def ProcessorTable.processor? (table : ProcessorTable) (item : SubscriptionLine) : Option Processor :=
  item.sku?.bind (List.lookup · table)

/-- The services that an item bills, with their amounts; none when its processor is undecided. -/
def itemCosts (table : ProcessorTable) (m : AccountMetrics) (item : SubscriptionLine) :
    List (String × Decimal) :=
  match ProcessorTable.processor? table item with
  | none => []
  | some p => if (p.undecided? m).isSome then [] else p.billed m

/-- The service that the processor of an item is undecided on. -/
def itemUndecided? (table : ProcessorTable) (m : AccountMetrics) (item : SubscriptionLine) : Option String :=
  (ProcessorTable.processor? table item).bind (·.undecided? m)

/-- The services that the lines of an item name. -/
def itemServices (table : ProcessorTable) (m : AccountMetrics) (item : SubscriptionLine) : List String :=
  (itemUndecided? table m item).toList ++ (itemCosts table m item).map (·.1)

/-- The lines of an item: those of its processor, or one that says why the processor failed. -/
inductive ItemBills (table : ProcessorTable) (b : LineBuilder) (item : SubscriptionLine) :
    List JournalLine → Prop
  | noSku : item.sku? = none → ItemBills table b item []
  | noProcessor {sku : String} :
    item.sku? = some sku → table.lookup sku = none → ItemBills table b item []
  | lines {sku : String} {p : Processor} {ls : List JournalLine} :
    item.sku? = some sku → table.lookup sku = some p → (p.process b sku).Returns ls →
      ItemBills table b item ls
  | failure {sku : String} {p : Processor} {f : LineFailure} {l : JournalLine} :
    item.sku? = some sku → table.lookup sku = some p → (p.process b sku).Fails f →
      b.errorLine f.serviceName f.amount sku f.message = .ok l → ItemBills table b item [l]

section
variable {table : ProcessorTable} {b : LineBuilder} {item : SubscriptionLine} {ls : List JournalLine}

theorem itemBills_of_itemLines (h : itemLines table b item = .ok ls) : ItemBills table b item ls := by
  unfold itemLines at h
  match hsku : item.sku? with
  | none =>
    simp only [hsku, pure_eq_ok] at h
    exact h ▸ .noSku hsku
  | some sku =>
    match hp : table.lookup sku with
    | none =>
      simp only [hsku, hp, pure_eq_ok] at h
      exact h ▸ .noProcessor hsku hp
    | some p =>
      simp only [hsku, hp] at h
      obtain ⟨r, hr, h⟩ := bind_eq_ok.mp h
      match r with
      | .ok _ => exact pure_eq_ok.mp h ▸ .lines hsku hp hr
      | .error _ =>
        obtain ⟨l, hl, h⟩ := bind_eq_ok.mp h
        exact pure_eq_ok.mp h ▸ .failure hsku hp hr hl

section
variable {es : List (String × Decimal)} {service sku : String}

theorem map_serviceName_of_validLine (h : List.Forall₂ (fun e l => b.validLine e.1 e.2 sku = .ok l) es ls) :
    ls.map (·.serviceName) = es.map (·.1) := by
  refine map_eq_map_of_forall₂ h fun e _ l hl => ?_
  obtain ⟨_, _, rfl⟩ := LineBuilder.validLine_eq_ok.mp hl
  rw [LineBuilder.serviceName_lineOf]

/-- Lines that charge carry no error, and name the account and the SKU. -/
theorem forall_mem_of_validLine (h : List.Forall₂ (fun e l => b.validLine e.1 e.2 sku = .ok l) es ls) :
    ∀ l ∈ ls, l.error = none ∧ l.accountId = beforeSlash b.accountId ∧ l.itemSearch.value = sku := by
  intro l hl
  obtain ⟨e, -, he⟩ := exists_left_of_mem h hl
  obtain ⟨_, _, rfl⟩ := LineBuilder.validLine_eq_ok.mp he
  refine ⟨?_, ?_, ?_⟩
  · exact LineBuilder.error_lineOf ..
  · exact LineBuilder.accountId_lineOf ..
  · rw [LineBuilder.itemSearch_lineOf]

/-- Where nothing is converted, lines charge the amounts as they are. -/
theorem amounts_of_validLine (hc : ∀ d ∈ b.invoice? service, d.needsConversion = false)
    (h : List.Forall₂ (fun e l => b.validLine e.1 e.2 sku = .ok l) es ls) :
    (ls.filter (·.serviceName = service)).map (·.amount) = (es.filter (·.1 = service)).map (·.2) := by
  induction h with
  | nil => rfl
  | @cons e l es ls hl _ ih =>
    obtain ⟨converted, hconv, rfl⟩ := LineBuilder.validLine_eq_ok.mp hl
    by_cases hs : e.1 = service
    · rw [hs, convertAmount_of_not_needsConversion hc] at hconv
      cases hconv
      simp [hs, ih]
    · simp [hs, ih]

end

namespace ItemBills
variable {service : String}

theorem map_serviceName (h : ItemBills table b item ls) :
    ls.map (·.serviceName) = itemServices table b.metrics item := by
  cases h with
  | noSku hsku => simp [itemServices, itemUndecided?, itemCosts, ProcessorTable.processor?, hsku]
  | noProcessor hsku hp => simp [itemServices, itemUndecided?, itemCosts, ProcessorTable.processor?, hsku, hp]
  | lines hsku hp hls =>
    obtain ⟨hund, hlines⟩ := Processor.process_returns hls
    simp [itemServices, itemUndecided?, itemCosts, ProcessorTable.processor?, hsku, hp, hund,
      map_serviceName_of_validLine hlines]
  | failure hsku hp hf hl =>
    obtain ⟨_, _, rfl⟩ := LineBuilder.errorLine_eq_ok.mp hl
    simp [itemServices, itemUndecided?, itemCosts, ProcessorTable.processor?, hsku, hp,
      Processor.process_fails hf]

/-- The lines of an item are lines of the account, for the SKU of the item. -/
theorem forall_mem (h : ItemBills table b item ls) :
    ∀ l ∈ ls, l.accountId = beforeSlash b.accountId ∧ item.sku? = some l.itemSearch.value ∧
      (table.lookup l.itemSearch.value).isSome := by
  cases h with
  | noSku _ => simp
  | noProcessor _ _ => simp
  | lines hsku hp hls =>
    intro l hl
    obtain ⟨-, hid, hv⟩ := forall_mem_of_validLine (Processor.process_returns hls).2 l hl
    rw [hv, hp]
    exact ⟨hid, hsku, rfl⟩
  | failure hsku hp hf hl =>
    obtain ⟨_, _, rfl⟩ := LineBuilder.errorLine_eq_ok.mp hl
    refine List.forall_mem_singleton.mpr ⟨?_, ?_, ?_⟩
    · rw [JournalLine.accountId_withError, LineBuilder.accountId_lineOf]
    · rw [JournalLine.itemSearch_withError, LineBuilder.itemSearch_lineOf, hsku]
    · rw [JournalLine.itemSearch_withError, LineBuilder.itemSearch_lineOf, hp, Option.isSome_some]

/-- An item has an error on the service that its processor is undecided on, and on no other. -/
theorem exists_error_iff (h : ItemBills table b item ls) :
    (∃ l ∈ ls, l.serviceName = service ∧ l.error.isSome) ↔
      itemUndecided? table b.metrics item = some service := by
  cases h with
  | noSku hsku => simp [itemUndecided?, ProcessorTable.processor?, hsku]
  | noProcessor hsku hp => simp [itemUndecided?, ProcessorTable.processor?, hsku, hp]
  | lines hsku hp hls =>
    obtain ⟨hund, hlines⟩ := Processor.process_returns hls
    simp only [itemUndecided?, ProcessorTable.processor?, hsku, hp, Option.bind_some, hund, reduceCtorEq,
      iff_false]
    rintro ⟨l, hl, -, herr⟩
    rw [(forall_mem_of_validLine hlines l hl).1] at herr
    cases herr
  | failure hsku hp hf hl =>
    obtain ⟨_, _, rfl⟩ := LineBuilder.errorLine_eq_ok.mp hl
    simp [itemUndecided?, ProcessorTable.processor?, hsku, hp, Processor.process_fails hf]

/-- An item that is not undecided on a service charges for it what its processor accepts. -/
theorem amounts (h : ItemBills table b item ls) (hc : ∀ d ∈ b.invoice? service, d.needsConversion = false)
    (hund : itemUndecided? table b.metrics item ≠ some service) :
    (ls.filter (·.serviceName = service)).map (·.amount) =
      ((itemCosts table b.metrics item).filter (·.1 = service)).map (·.2) := by
  cases h with
  | noSku hsku => simp [itemCosts, ProcessorTable.processor?, hsku]
  | noProcessor hsku hp => simp [itemCosts, ProcessorTable.processor?, hsku, hp]
  | lines hsku hp hls =>
    obtain ⟨hnone, hlines⟩ := Processor.process_returns hls
    rw [amounts_of_validLine hc hlines]
    simp [itemCosts, ProcessorTable.processor?, hsku, hp, hnone]
  | @failure _ _ f _ hsku hp hf hl =>
    obtain ⟨_, _, rfl⟩ := LineBuilder.errorLine_eq_ok.mp hl
    have hfail := Processor.process_fails hf
    have hne : f.serviceName ≠ service := by
      simpa [itemUndecided?, ProcessorTable.processor?, hsku, hp, hfail] using hund
    simp [itemCosts, ProcessorTable.processor?, hsku, hp, hfail, hne]

end ItemBills

end

end CostJournal
