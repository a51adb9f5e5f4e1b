import CostJournal.Proofs.Account.Pass
import CostJournal.Proofs.CutShort
import CostJournal.Proofs.Decimal.Range

/-!
# Where an account runs out of decimals

The amounts of a pass are computed one after the other: for each item the discount and the conversion
of its services, then the observed costs, the services that no item names, and the total for the log.
The first result out of range ends the pass with everything around it: `AccountPass.LinesRunOut` and
`AccountPass.RunsOut` have one rule for each of these places, and `AccountPass.outcome_runsOut` says that
there are no others. Items and
services do not depend on each other, so that going over them `ComesTo` the first one out of range.
-/

namespace CostJournal
variable {o : Overflow}

/-- A number has no percentage of a total: their quotient is out of range, or a hundred times it is. -/
inductive PercentRunsOut (part total : Decimal) : Overflow → Prop
  | quotient : total.isZero = false → OutOfRange (part.value / total.value) →
    PercentRunsOut part total .division
  | percent {quotient : Decimal} : total.isZero = false → part.div total = .ok quotient →
    OutOfRange (quotient.value * 100) → PercentRunsOut part total .multiplication

theorem percentRunsOut_iff {part total : Decimal} : PercentRunsOut part total o ↔
    total.isZero = false ∧ (do (← part.div total).mul .hundred) = .error o := by
  rw [bind_eq_error]
  simp only [Decimal.div_eq_error, Decimal.mul_eq_error, Decimal.value_hundred]
  constructor
  · intro h
    cases h with
    | quotient hzero hout => exact ⟨hzero, .inl ⟨rfl, .inr hout⟩⟩
    | percent hzero hquotient hout => exact ⟨hzero, .inr ⟨_, hquotient, rfl, hout⟩⟩
  · rintro ⟨hzero, ⟨rfl, hzero' | hout⟩ | ⟨quotient, hquotient, rfl, hout⟩⟩
    · cases hzero.symm.trans hzero'
    · exact .quotient hzero hout
    · exact .percent hzero hquotient hout

namespace Discount

theorem percentage_eq_error {part total : Decimal} :
    percentage part total = .error o ↔ PercentRunsOut part.abs total o := by
  rw [percentRunsOut_iff, percentage]
  cases total.isZero <;> simp

theorem implied_eq_error {providerDiscount amount : Decimal} :
    implied providerDiscount amount = .error o ↔ PercentRunsOut providerDiscount.neg amount o := by
  rw [percentRunsOut_iff, implied, bind_eq_error]
  cases amount.isZero with
  | true => simp
  | false => simp [bind_eq_error, pure, Except.pure]

theorem isWithinTolerance_eq_error {observed expected tolerance : Decimal} :
    isWithinTolerance observed expected tolerance = .error o ↔
      o = .subtraction ∧ (expected.isZero = true → observed.isZero = true) ∧
        OutOfRange (observed.value - expected.value) := by
  rw [isWithinTolerance]
  by_cases h : (expected.isZero && !observed.isZero) = true
  · rw [if_pos h]
    simp only [Bool.and_eq_true, Bool.not_eq_true'] at h
    simp [h]
  · rw [if_neg h, bind_eq_error]
    have hexpected : expected.isZero = true → observed.isZero = true := by simpa using h
    simp only [Decimal.sub_eq_error, pure, Except.pure, reduceCtorEq, and_false, exists_false, or_false,
      and_iff_right hexpected]

end Discount

namespace Validator
variable {v : Validator} {expected amount tolerance : Decimal} {service : String} {m : AccountMetrics}

/-- The validator compares the amount that a family has for the service with a total. -/
inductive Judges (amount : Decimal) (service : String) (m : AccountMetrics) :
    Validator → Metric → Decimal → Prop
  | ofAmount : Judges amount service m .ofAmount .providerDiscount amount
  | ofUsage {total : Decimal} : (m.amount .usage service).add (m.amount .recurring service) = .ok total →
    Judges amount service m .ofUsage .providerDiscount total
  | supportRefund {total : Decimal} : singleSupportAmount m = .ok total →
    Judges amount service m .supportRefund .refund total
  | supportDiscount {total : Decimal} : singleSupportAmount m = .ok total →
    Judges amount service m .supportDiscount .providerDiscount total

/-- A service cannot be judged: the total of usage and recurring fees is out of range, the percentage,
or its distance from the expected discount. -/
inductive RunsOut (v : Validator) (expected amount : Decimal) (service : String) (m : AccountMetrics) :
    Overflow → Prop
  | total : v = .ofUsage → OutOfRange ((m.amount .usage service).value + (m.amount .recurring service).value) →
    v.RunsOut expected amount service m .addition
  | percent {metric : Metric} {total : Decimal} {o : Overflow} : Judges amount service m v metric total →
    PercentRunsOut (m.amount metric service).abs total o → v.RunsOut expected amount service m o
  | distance {metric : Metric} {total observed : Decimal} : v = .ofAmount ∨ v = .ofUsage →
    Judges amount service m v metric total →
    Discount.percentage (m.amount metric service) total = .ok observed →
    (expected.isZero = true → observed.isZero = true) → OutOfRange (observed.value - expected.value) →
    v.RunsOut expected amount service m .subtraction

theorem matchesSupport_runsOut {metric : Metric} :
    (matchesSupport metric expected service m).RunsOut o ↔
      ∃ total, singleSupportAmount m = .ok total ∧ PercentRunsOut (m.amount metric service).abs total o := by
  unfold matchesSupport
  simp only [Billing.runsOut_bind, Billing.runsOut_ofExcept, Billing.returns_ofExcept, false_or,
    Billing.runsOut_liftM, Discount.percentage_eq_error, Billing.runsOut_pure, and_false, exists_false,
    or_false]

/-- A validator without a tolerance needs the percentage alone. -/
theorem runsOut_iff_percent (hv : v ≠ .ofAmount ∧ v ≠ .ofUsage) : v.RunsOut expected amount service m o ↔
    ∃ metric total, Judges amount service m v metric total ∧
      PercentRunsOut (m.amount metric service).abs total o := by
  constructor
  · intro h
    cases h with
    | total hv' => exact absurd hv' hv.2
    | percent hjudges hpercent => exact ⟨_, _, hjudges, hpercent⟩
    | distance hv' => exact absurd hv' (not_or.mpr hv)
  · rintro ⟨_, _, hjudges, hpercent⟩
    exact .percent hjudges hpercent

theorem validate_runsOut :
    (v.validate expected amount service m tolerance).RunsOut o ↔ v.RunsOut expected amount service m o := by
  cases v with
  | acceptAll =>
    rw [runsOut_iff_percent (v := .acceptAll) (by decide)]
    refine iff_of_false Billing.runsOut_pure ?_
    rintro ⟨_, _, ⟨⟩, -⟩
  | ofAmount =>
    unfold validate
    simp only [Billing.runsOut_bind, Billing.runsOut_liftM, Billing.returns_liftM,
      Discount.percentage_eq_error, Discount.isWithinTolerance_eq_error]
    constructor
    · rintro (hpercent | ⟨observed, hobserved, rfl, hexpected, hout⟩)
      · exact .percent .ofAmount hpercent
      · exact .distance (.inl rfl) .ofAmount hobserved hexpected hout
    · intro h
      cases h with
      | total hv => cases hv
      | percent hjudges hpercent =>
        cases hjudges
        exact .inl hpercent
      | distance _ hjudges hobserved hexpected hout =>
        cases hjudges
        exact .inr ⟨_, hobserved, rfl, hexpected, hout⟩
  | ofUsage =>
    unfold validate
    simp only [Billing.runsOut_bind, Billing.runsOut_liftM, Billing.returns_liftM,
      Discount.percentage_eq_error, Discount.isWithinTolerance_eq_error, Decimal.add_eq_error]
    constructor
    · rintro (⟨rfl, hout⟩ | ⟨total, htotal, hpercent | ⟨observed, hobserved, rfl, hexpected, hout⟩⟩)
      · exact .total rfl hout
      · exact .percent (.ofUsage htotal) hpercent
      · exact .distance (.inr rfl) (.ofUsage htotal) hobserved hexpected hout
    · intro h
      cases h with
      | total _ hout => exact .inl ⟨rfl, hout⟩
      | percent hjudges hpercent =>
        cases hjudges with | ofUsage htotal => exact .inr ⟨_, htotal, .inl hpercent⟩
      | distance _ hjudges hobserved hexpected hout =>
        cases hjudges with
        | ofUsage htotal => exact .inr ⟨_, htotal, .inr ⟨_, hobserved, rfl, hexpected, hout⟩⟩
  | supportRefund =>
    rw [validate, matchesSupport_runsOut, runsOut_iff_percent (v := .supportRefund) (by decide)]
    constructor
    · rintro ⟨total, htotal, hpercent⟩
      exact ⟨_, total, .supportRefund htotal, hpercent⟩
    · rintro ⟨_, _, hjudges, hpercent⟩
      cases hjudges with | supportRefund htotal => exact ⟨_, htotal, hpercent⟩
  | supportDiscount =>
    rw [validate, matchesSupport_runsOut, runsOut_iff_percent (v := .supportDiscount) (by decide)]
    constructor
    · rintro ⟨total, htotal, hpercent⟩
      exact ⟨_, total, .supportDiscount htotal, hpercent⟩
    · rintro ⟨_, _, hjudges, hpercent⟩
      cases hjudges with | supportDiscount htotal => exact ⟨_, htotal, hpercent⟩

end Validator

/-- An amount is converted, and is out of range in the payment currency. -/
def ConversionRunsOut (amount : Decimal) (invoice : Option InvoiceEntityDetails) : Prop :=
  ∃ d ∈ invoice, d.needsConversion = true ∧ OutOfRange (amount.value * d.exchangeRate.value)

theorem convertAmount_eq_error {amount : Decimal} {invoice : Option InvoiceEntityDetails} :
    convertAmount amount invoice = .error o ↔ o = .multiplication ∧ ConversionRunsOut amount invoice := by
  unfold convertAmount ConversionRunsOut
  match invoice with
  | none => simp
  | some d =>
    cases hd : d.needsConversion with
    | false => simp [hd]
    | true => simp [hd, bind_eq_error, Decimal.mul_eq_error, pure, Except.pure]

namespace LineBuilder
variable {b : LineBuilder} {service sku message : String} {amount : Decimal} {e : String × Decimal}

theorem validLine_eq_error : b.validLine service amount sku = .error o ↔
    o = .multiplication ∧ ConversionRunsOut amount (b.invoice? service) := by
  rw [validLine, bind_eq_error, convertAmount_eq_error]
  simp [pure, Except.pure]

theorem errorLine_eq_error : b.errorLine service amount sku message = .error o ↔
    o = .multiplication ∧ ConversionRunsOut amount (b.invoice? service) := by
  rw [errorLine, bind_eq_error, validLine_eq_error]
  simp [pure, Except.pure]

/-- A service that no item names has no line: the discount that its text gives is out of range, or its
amount in the payment currency. -/
inductive UnmatchedRunsOut (b : LineBuilder) (e : String × Decimal) : Overflow → Prop
  | discount {o : Overflow} : PercentRunsOut (b.metrics.amount .providerDiscount e.1).neg e.2 o →
    b.UnmatchedRunsOut e o
  | conversion : (∀ o, ¬ PercentRunsOut (b.metrics.amount .providerDiscount e.1).neg e.2 o) →
    ConversionRunsOut e.2 (b.invoice? e.1) → b.UnmatchedRunsOut e .multiplication

theorem unmatchedLine_eq_error : b.unmatchedLine e.1 e.2 = .error o ↔ b.UnmatchedRunsOut e o := by
  unfold unmatchedLine
  simp only [bind_eq_error, Discount.implied_eq_error, errorLine_eq_error]
  constructor
  · rintro (hpercent | ⟨discount, hdiscount, rfl, hout⟩)
    · exact .discount hpercent
    · refine .conversion (fun o hpercent => ?_) hout
      cases hdiscount.symm.trans (Discount.implied_eq_error.mpr hpercent)
  · intro h
    cases h with
    | discount hpercent => exact .inl hpercent
    | conversion hpercent hout =>
      obtain ⟨discount, hdiscount⟩ := exists_eq_ok_iff.mpr fun o h =>
        hpercent o (Discount.implied_eq_error.mp h)
      exact .inr ⟨discount, hdiscount, rfl, hout⟩

end LineBuilder

namespace Processor
variable {p : Processor} {b : LineBuilder} {sku : String} {e : String × Decimal}

/-- A service of the family has no line: it cannot be judged, or it is accepted and cannot be converted. -/
inductive RunsOutOn (p : Processor) (b : LineBuilder) (e : String × Decimal) : Overflow → Prop
  | judging {o : Overflow} : p.isExcluded e.1 b.metrics = false →
    p.validator.RunsOut p.discount e.2 e.1 b.metrics o → p.RunsOutOn b e o
  | conversion : p.accepts b.metrics e = true → ConversionRunsOut e.2 (b.invoice? e.1) →
    p.RunsOutOn b e .multiplication

/-- The processor goes on to the next service after this one. -/
def Passes (p : Processor) (b : LineBuilder) (e : String × Decimal) : Prop :=
  p.isUndecided b.metrics e = false ∧ ∀ o, ¬ p.RunsOutOn b e o

/-- Going over the services of its family, the processor comes to one that has no line. -/
def RunsOut (p : Processor) (b : LineBuilder) (o : Overflow) : Prop :=
  ∃ e, ComesTo (p.Passes b) (b.metrics.services p.metric).entries e ∧ p.RunsOutOn b e o

theorem lineFor_runsOut : (p.lineFor b sku e.1 e.2).RunsOut o ↔ p.RunsOutOn b e o := by
  unfold lineFor
  cases hex : p.isExcluded e.1 b.metrics with
  | true =>
    refine iff_of_false Billing.runsOut_pure fun h => ?_
    cases h with
    | judging hex' => cases hex.symm.trans hex'
    | conversion haccepts => cases hex.symm.trans (accepts_iff.mp haccepts).1
  | false =>
    rw [if_neg Bool.false_ne_true, Billing.runsOut_bind]
    simp only [Billing.runsOut_liftM, Billing.returns_liftM]
    constructor
    · rintro (hjudging | ⟨r, hr, h⟩)
      · exact .judging hex (Validator.validate_runsOut.mp hjudging)
      match r with
      | .error _ => exact absurd h Billing.runsOut_throw
      | .ok false => exact absurd h Billing.runsOut_pure
      | .ok true =>
        rcases Billing.runsOut_bind.mp h with h | ⟨_, _, h⟩
        · obtain ⟨rfl, hout⟩ := LineBuilder.validLine_eq_error.mp (Billing.runsOut_liftM.mp h)
          exact .conversion (accepts_iff.mpr ⟨hex, hr⟩) hout
        · exact absurd h Billing.runsOut_pure
    · intro h
      cases h with
      | judging _ hjudging => exact .inl (Validator.validate_runsOut.mpr hjudging)
      | conversion haccepts hout =>
        refine .inr ⟨.ok true, (accepts_iff.mp haccepts).2, Billing.runsOut_bind.mpr (.inl ?_)⟩
        exact Billing.runsOut_liftM.mpr (LineBuilder.validLine_eq_error.mpr ⟨rfl, hout⟩)

theorem exists_lineFor_returns : (∃ ls, (p.lineFor b sku e.1 e.2).Returns ls) ↔ p.Passes b e := by
  constructor
  · rintro ⟨ls, h⟩
    refine ⟨(lineFor_returns h).1, fun o hout => ?_⟩
    cases h.symm.trans (lineFor_runsOut.mpr hout)
  · rintro ⟨hdecided, hout⟩
    rcases Billing.returns_or_fails fun o h => hout o (lineFor_runsOut.mp h) with h | ⟨f, h⟩
    · exact h
    · cases hdecided.symm.trans (lineFor_fails h).1

theorem process_runsOut : (p.process b sku).RunsOut o ↔ p.RunsOut b o := by
  unfold process
  rw [Billing.runsOut_bind, or_iff_left fun ⟨_, _, h⟩ => Billing.runsOut_pure h, Billing.runsOut_mapM]
  simp only [exists_lineFor_returns, lineFor_runsOut]
  rfl

/-- What a processor fails with charges nothing. -/
theorem amount_of_process_fails {f : LineFailure} (h : (p.process b sku).Fails f) : f.amount = .zero := by
  rcases Billing.fails_bind.mp h with h | ⟨_, _, h⟩
  · obtain ⟨_, -, h⟩ := Billing.fails_mapM.mp h
    exact (lineFor_fails h).2.2
  · exact absurd h Billing.fails_pure

end Processor

/-- The processor of an item comes to a service that has no line. -/
def ItemRunsOut (table : ProcessorTable) (b : LineBuilder) (item : SubscriptionLine) (o : Overflow) : Prop :=
  ∃ p, ProcessorTable.processor? table item = some p ∧ p.RunsOut b o

theorem itemLines_eq_error {table : ProcessorTable} {b : LineBuilder} {item : SubscriptionLine} :
    itemLines table b item = .error o ↔ ItemRunsOut table b item o := by
  unfold itemLines ItemRunsOut ProcessorTable.processor?
  cases item.sku? with
  | none => simp [pure, Except.pure]
  | some sku =>
    cases hp : List.lookup sku table with
    | none => simp [hp, pure, Except.pure]
    | some p =>
      simp only [hp, Option.bind_some, Option.some.injEq, exists_eq_left', bind_eq_error]
      rw [show (p.process b sku).run = .error o ↔ p.RunsOut b o from Processor.process_runsOut]
      refine or_iff_left ?_
      rintro ⟨r, hr, h⟩
      cases r with
      | ok _ => cases h
      | error f =>
        -- the line of a failure has nothing to convert
        rcases bind_eq_error.mp h with h | ⟨_, _, h⟩
        · obtain ⟨-, d, -, -, hout⟩ := LineBuilder.errorLine_eq_error.mp h
          rw [Processor.amount_of_process_fails hr, Decimal.value_zero, zero_mul, ← Decimal.value_zero] at hout
          exact Decimal.not_outOfRange_value _ hout
        · cases h

/-- Going over the rows of a report, the sum of a service and the next positive amount is out of range. -/
def Report.CostsRunOut (r : Report) : Prop :=
  ∃ before row after observed amount, r.costRows = before ++ row :: after ∧
    (before.foldlM Report.addCost .empty).Returns observed ∧ Amount.ofReport row.2 = .ok amount ∧
    Decimal.zero < amount ∧ OutOfRange (((observed.get? row.1).getD .zero).value + amount.value)

theorem Report.addCost_runsOut {observed : SortedMap Decimal} {row : String × String} :
    (addCost observed row).RunsOut o ↔ o = .addition ∧ ∃ amount, Amount.ofReport row.2 = .ok amount ∧
      Decimal.zero < amount ∧ OutOfRange (((observed.get? row.1).getD .zero).value + amount.value) := by
  unfold addCost
  rw [Billing.runsOut_bind, or_iff_right Billing.runsOut_ofExcept]
  simp only [Billing.returns_ofExcept]
  rw [← exists_and_left]
  refine exists_congr fun amount => ?_
  by_cases hpos : Decimal.zero < amount
  · rw [if_pos hpos, Billing.runsOut_bind, Billing.runsOut_liftM, Decimal.add_eq_error]
    simp only [Billing.runsOut_pure, and_false, exists_false, or_false, hpos, true_and]
    exact and_left_comm
  · rw [if_neg hpos]
    exact iff_of_false (fun h => Billing.runsOut_pure h.2) fun h => hpos h.2.2.1

theorem Report.observedCosts_runsOut {r : Report} :
    r.observedCosts.RunsOut o ↔ o = .addition ∧ r.CostsRunOut := by
  unfold observedCosts CostsRunOut
  simp only [Billing.runsOut_foldlM, addCost_runsOut]
  constructor
  · rintro ⟨before, row, after, observed, hrows, hbefore, rfl, amount, h⟩
    exact ⟨rfl, before, row, after, observed, amount, hrows, hbefore, h⟩
  · rintro ⟨rfl, before, row, after, observed, amount, hrows, hbefore, h⟩
    exact ⟨before, row, after, observed, hrows, hbefore, rfl, amount, h⟩

/-- Going over amounts, the sum so far and the next one is out of range. -/
def SumRunsOut (ds : List Decimal) : Prop :=
  ∃ before d after total, ds = before ++ d :: after ∧ Decimal.sum before = .ok total ∧
    OutOfRange (total.value + d.value)

theorem sum_eq_error {ds : List Decimal} : Decimal.sum ds = .error o ↔ o = .addition ∧ SumRunsOut ds := by
  unfold SumRunsOut Decimal.sum
  simp only [Checked.foldlM_eq_error, Decimal.add_eq_error]
  constructor
  · rintro ⟨before, d, after, total, hds, hbefore, rfl, hout⟩
    exact ⟨rfl, before, d, after, total, hds, hbefore, hout⟩
  · rintro ⟨rfl, before, d, after, total, hds, hbefore, hout⟩
    exact ⟨before, d, after, total, hds, hbefore, rfl, hout⟩

namespace AccountPass
variable {p : AccountPass} {table : ProcessorTable} {logged : Bool}

/-- The observed services that the lines of the items do not name. -/
def unnamed (p : AccountPass) (observed : SortedMap Decimal) (billed : List (List JournalLine)) :
    List (String × Decimal) :=
  observed.entries.filter fun e => !isNamed billed.flatten p.accountId e.1

/-- The lines of the pass run out of decimals: in an item, in the sum of what a service costs, or in a
service that no item names; what comes before has returned. -/
inductive LinesRunOut (p : AccountPass) (table : ProcessorTable) : Overflow → Prop
  | item {m : AccountMetrics} {item : SubscriptionLine} {o : Overflow} :
    AccountMetrics.build p.accountId p.marketplace p.recordTypes p.invoiceEntities = .ok m →
    ComesTo (fun i => ∀ o, ¬ ItemRunsOut table (p.builder m) i o) p.items item →
    ItemRunsOut table (p.builder m) item o → p.LinesRunOut table o
  | costs {m : AccountMetrics} {billed : List (List JournalLine)} :
    AccountMetrics.build p.accountId p.marketplace p.recordTypes p.invoiceEntities = .ok m →
    p.items.mapM (itemLines table (p.builder m)) = .ok billed → p.recordTypes.CostsRunOut →
    p.LinesRunOut table .addition
  | unmatched {m : AccountMetrics} {billed : List (List JournalLine)} {observed : SortedMap Decimal}
    {e : String × Decimal} {o : Overflow} :
    AccountMetrics.build p.accountId p.marketplace p.recordTypes p.invoiceEntities = .ok m →
    p.items.mapM (itemLines table (p.builder m)) = .ok billed → p.recordTypes.observedCosts.Returns observed →
    ComesTo (fun e => ∀ o, ¬ (p.builder m).UnmatchedRunsOut e o) (p.unnamed observed billed) e →
    (p.builder m).UnmatchedRunsOut e o → p.LinesRunOut table o

/-- The pass runs out of decimals in its lines, or in their total for the log. -/
inductive RunsOut (p : AccountPass) (table : ProcessorTable) (logged : Bool) : Overflow → Prop
  | lines {o : Overflow} : p.LinesRunOut table o → p.RunsOut table logged o
  | total {ls : List JournalLine} : logged = true → (p.lines table false).Returns ls →
    SumRunsOut ((ls.filter (·.accountId == p.accountId)).map (·.amount)) → p.RunsOut table logged .addition

theorem mapM_itemLines_eq_error {b : LineBuilder} {items : List SubscriptionLine} :
    items.mapM (itemLines table b) = .error o ↔
      ∃ item, ComesTo (fun i => ∀ o, ¬ ItemRunsOut table b i o) items item ∧ ItemRunsOut table b item o := by
  simp only [Checked.mapM_eq_error, itemLines_eq_error, ne_eq]

theorem unmatchedLines_eq_error {m : AccountMetrics} {observed : SortedMap Decimal}
    {billed : List (List JournalLine)} :
    (p.builder m).unmatchedLines observed billed.flatten = .error o ↔
      ∃ e, ComesTo (fun e => ∀ o, ¬ (p.builder m).UnmatchedRunsOut e o) (p.unnamed observed billed) e ∧
        (p.builder m).UnmatchedRunsOut e o := by
  unfold LineBuilder.unmatchedLines
  simp only [Checked.mapM_eq_error, LineBuilder.unmatchedLine_eq_error, ne_eq]
  rfl

/-- The log only adds the total. -/
theorem lines_logged : p.lines table true = p.lines table false >>= fun ls =>
    liftM (amountByAccount ls p.accountId) >>= fun _ => pure ls := by
  simp [lines]

theorem lines_runsOut_of_unlogged : (p.lines table false).RunsOut o ↔ p.LinesRunOut table o := by
  unfold lines
  simp only [Billing.runsOut_bind, Billing.runsOut_ofExcept, false_or, Billing.returns_ofExcept,
    Billing.runsOut_liftM, Billing.returns_liftM, Report.observedCosts_runsOut, mapM_itemLines_eq_error,
    unmatchedLines_eq_error]
  constructor
  · rintro ⟨m, hm, ⟨item, hitem, hout⟩ | ⟨billed, hbilled, h⟩⟩
    · exact .item hm hitem hout
    rcases h with ⟨rfl, hout⟩ | ⟨observed, hobserved, ⟨e, he, hout⟩ | ⟨unmatched, -, h⟩⟩
    · exact .costs hm hbilled hout
    · exact .unmatched hm hbilled hobserved he hout
    · exact absurd h Billing.runsOut_pure
  · intro h
    cases h with
    | item hm hitem hout => exact ⟨_, hm, .inl ⟨_, hitem, hout⟩⟩
    | costs hm hbilled hout => exact ⟨_, hm, .inr ⟨_, hbilled, .inl ⟨rfl, hout⟩⟩⟩
    | unmatched hm hbilled hobserved he hout =>
      exact ⟨_, hm, .inr ⟨_, hbilled, .inr ⟨_, hobserved, .inl ⟨_, he, hout⟩⟩⟩⟩

theorem lines_runsOut : (p.lines table logged).RunsOut o ↔ p.RunsOut table logged o := by
  cases logged with
  | false =>
    rw [lines_runsOut_of_unlogged]
    refine ⟨.lines, fun h => ?_⟩
    cases h with
    | lines h => exact h
    | total hlogged => cases hlogged
  | true =>
    rw [lines_logged, Billing.runsOut_bind, lines_runsOut_of_unlogged]
    simp only [Billing.runsOut_bind, Billing.runsOut_liftM, Billing.runsOut_pure, and_false, exists_false,
      or_false, amountByAccount, sum_eq_error]
    constructor
    · rintro (h | ⟨ls, hls, rfl, hout⟩)
      · exact .lines h
      · exact .total rfl hls hout
    · intro h
      cases h with
      | lines h => exact .inl h
      | total _ hls hout => exact .inr ⟨_, hls, rfl, hout⟩

/-- These are all places where a pass runs out of decimals. -/
theorem outcome_runsOut : (p.outcome table logged).RunsOut o ↔ p.RunsOut table logged o := by
  unfold outcome
  rw [Billing.runsOut_bind, lines_runsOut]
  exact or_iff_left fun ⟨_, _, h⟩ => Billing.runsOut_pure h

end AccountPass

end CostJournal
