import CostJournal.Proofs.Account.Billed
import CostJournal.Proofs.SortedMap
import CostJournal.Proofs.Text.Bytes

/-!
# Admissible services

A processor fails only where its validator needs the only support product and finds several
(`Processor.IsAmbiguous`). That does not depend on the service, so it fails at the first service that is not
excluded, before any line. Otherwise it bills the services that are not excluded and have the expected discount
(`Processor.admissible`), with one line each: `process_admissible`.
-/

namespace CostJournal

namespace Validator
variable {v : Validator} {expected amount tolerance : Decimal} {service : String} {m : AccountMetrics}

/-- The validator compares with the amount of the only support product. -/
def IsOfSupport (v : Validator) : Prop := v = supportRefund ∨ v = supportDiscount

theorem singleSupportAmount_eq_error {e : AmbiguousSupport} : singleSupportAmount m = .error e ↔
    1 < (m.services .support).keys.length ∧ e = ⟨(m.services .support).keys⟩ := by
  unfold singleSupportAmount SortedMap.keys
  match (m.services .support).entries with
  | [] => simp
  | [_] => simp
  | _ :: _ :: _ => simp [eq_comm]

theorem matchesSupport_fails {metric : Metric} {e : AmbiguousSupport} :
    (matchesSupport metric expected service m).Fails e ↔ singleSupportAmount m = .error e := by
  unfold matchesSupport
  simp only [Billing.fails_bind, Billing.fails_ofExcept, Billing.fails_liftM, Billing.fails_pure, and_false,
    exists_false, or_false]

/-- Which validators fail, and with what, is the same for all services and amounts. -/
theorem validate_fails {e : AmbiguousSupport} : (v.validate expected amount service m tolerance).Fails e ↔
    v.IsOfSupport ∧ 1 < (m.services .support).keys.length ∧ e = ⟨(m.services .support).keys⟩ := by
  rw [← singleSupportAmount_eq_error]
  cases v with
  | acceptAll => exact iff_of_false Billing.fails_pure fun h => by simp [IsOfSupport] at h
  | ofAmount =>
    unfold validate
    simp [IsOfSupport, Billing.fails_bind, Billing.fails_liftM]
  | ofUsage =>
    unfold validate
    simp [IsOfSupport, Billing.fails_bind, Billing.fails_liftM]
  | supportRefund => exact matchesSupport_fails.trans (and_iff_right (.inl rfl)).symm
  | supportDiscount => exact matchesSupport_fails.trans (and_iff_right (.inr rfl)).symm

end Validator

namespace LineBuilder
variable {b : LineBuilder} {sku : String} {e : String × Decimal} {l : JournalLine}

/-- The line bills the amount of the service, converted for its entity, under the SKU. -/
structure Charges (b : LineBuilder) (sku : String) (e : String × Decimal) (l : JournalLine) : Prop where
  serviceName : l.serviceName = e.1
  amount : convertAmount e.2 (b.invoice? e.1) = .ok l.amount
  converted : IsConverted e.2 (b.invoices.entities.get? ((b.metrics.invoiceEntity? e.1).getD "")) l.amount
  item : l.itemSearch.value = sku
  valid : l.isValid
  built : b.validLine e.1 e.2 sku = .ok l

theorem charges_of_validLine (h : b.validLine e.1 e.2 sku = .ok l) : b.Charges sku e l := by
  obtain ⟨converted, hc, rfl⟩ := validLine_eq_ok.mp h
  refine ⟨?_, ?_, ?_, ?_, ?_, h⟩
  · rw [serviceName_lineOf]
  · rw [hc, amount_lineOf]
  · rw [amount_lineOf]
    exact isConverted_of_convertAmount hc
  · rw [itemSearch_lineOf]
  · rw [JournalLine.isValid, error_lineOf, Option.isNone_none]

end LineBuilder

namespace Processor
variable {p : Processor} {m : AccountMetrics} {b : LineBuilder} {sku : String} {e : String × Decimal}
  {f : LineFailure}

/-- A service is excluded by its name, or because the account has it in a family that is billed under another
SKU. -/
def Excludes (p : Processor) (m : AccountMetrics) (service : String) : Prop :=
  service ∈ p.excludedServices ∨ ∃ metric ∈ p.excludedMetrics, ∃ amount, (m.services metric).get? service = some amount

theorem isExcluded_iff {service : String} : p.isExcluded service m = true ↔ p.Excludes m service := by
  simp only [isExcluded, Excludes, Bool.or_eq_true, List.contains_iff_mem, List.any_eq_true, SortedMap.contains,
    Option.isSome_iff_exists]

instance (p : Processor) (m : AccountMetrics) (service : String) : Decidable (p.Excludes m service) :=
  decidable_of_iff _ isExcluded_iff

/-- The services of the family that are not excluded, with their amounts. -/
def judged (p : Processor) (m : AccountMetrics) : List (String × Decimal) :=
  (m.services p.metric).entries.filter fun e => ¬ p.Excludes m e.1

/-- The services that are not excluded and have the expected discount, with their amounts. -/
def admissible (p : Processor) (m : AccountMetrics) : List (String × Decimal) :=
  (p.judged m).filter fun e =>
    (p.validator.validate p.discount e.2 e.1 m p.tolerance).Returns true

/-- The processor has a service to judge by a support product, and the account has several of these. -/
structure IsAmbiguous (p : Processor) (m : AccountMetrics) : Prop where
  ofSupport : p.validator.IsOfSupport
  several : 1 < (m.services .support).keys.length
  judges : p.judged m ≠ []

theorem mem_judged : e ∈ p.judged m ↔ e ∈ (m.services p.metric).entries ∧ p.isExcluded e.1 m = false := by
  rw [judged, List.mem_filter, decide_eq_true_iff, ← isExcluded_iff, Bool.not_eq_true]

theorem billed_eq_admissible (p : Processor) (m : AccountMetrics) : p.billed m = p.admissible m := by
  rw [billed, admissible, judged, List.filter_filter]
  refine List.filter_congr fun e _ => ?_
  rw [Bool.eq_iff_iff, accepts_iff, Bool.and_eq_true, decide_eq_true_iff, decide_eq_true_iff, ← isExcluded_iff,
    Bool.not_eq_true, and_comm]

theorem lineFor_of_isExcluded (h : p.isExcluded e.1 b.metrics = true) : (p.lineFor b sku e.1 e.2).Returns [] := by
  rw [lineFor, if_pos h]
  exact Billing.returns_pure.mpr rfl

theorem process_fails_iff : (p.process b sku).Fails f ↔
    ∃ e, ComesTo (fun e => ∃ ls, (p.lineFor b sku e.1 e.2).Returns ls) (b.metrics.services p.metric).entries e ∧
      (p.lineFor b sku e.1 e.2).Fails f := by
  unfold process
  rw [Billing.fails_bind, or_iff_left fun ⟨_, _, h⟩ => Billing.fails_pure h, Billing.fails_mapM]

theorem lineFor_fails_of_isAmbiguous (h : p.IsAmbiguous b.metrics) (hex : p.isExcluded e.1 b.metrics = false) :
    (p.lineFor b sku e.1 e.2).Fails
      ⟨e.1, .zero, AmbiguousSupport.message ⟨(b.metrics.services .support).keys⟩⟩ :=
  lineFor_fails_iff.mpr ⟨hex, _, Validator.validate_fails.mpr ⟨h.ofSupport, h.several, rfl⟩, rfl⟩

/-- The processor comes to the first service that is not excluded, over excluded services alone. -/
theorem comesTo_judged (h : p.judged m ≠ []) : ∃ e,
    ComesTo (fun e => p.isExcluded e.1 m = true) (m.services p.metric).entries e ∧ p.isExcluded e.1 m = false := by
  have hsome : ((m.services p.metric).entries.find? fun e => !p.isExcluded e.1 m).isSome := by
    rw [List.find?_isSome]
    obtain ⟨e, he⟩ := List.exists_mem_of_ne_nil _ h
    exact ⟨e, (mem_judged.mp he).1, by simpa using (mem_judged.mp he).2⟩
  obtain ⟨e, he⟩ := Option.isSome_iff_exists.mp hsome
  obtain ⟨hex, before, after, hentries, hbefore⟩ := List.find?_eq_some_iff_append.mp he
  exact ⟨e, ⟨before, after, hentries, fun y hy => by simpa using hbefore y hy⟩, by simpa using hex⟩

theorem process_fails_of_isAmbiguous (h : p.IsAmbiguous b.metrics) : ∃ f, (p.process b sku).Fails f := by
  obtain ⟨e, ⟨before, after, hentries, hbefore⟩, hex⟩ := comesTo_judged h.judges
  have hpasses : ∀ y ∈ before, ∃ ls, (p.lineFor b sku y.1 y.2).Returns ls := fun y hy =>
    ⟨[], lineFor_of_isExcluded (hbefore y hy)⟩
  exact ⟨_, process_fails_iff.mpr ⟨e, ⟨before, after, hentries, hpasses⟩, lineFor_fails_of_isAmbiguous h hex⟩⟩

/-- The processor fails for the want of a single support product, at the first service that it judges, and no
service before that one gave it a line. -/
structure FailsAtFirst (p : Processor) (b : LineBuilder) (sku : String) (f : LineFailure) : Prop where
  first : ∃ amount before after,
    (b.metrics.services p.metric).entries = before ++ (f.serviceName, amount) :: after ∧
      (f.serviceName, amount) ∈ p.judged b.metrics ∧ (p.lineFor b sku f.serviceName amount).Fails f ∧
      ∀ e ∈ before, (p.lineFor b sku e.1 e.2).Returns []
  least : ∀ e ∈ p.judged b.metrics, e.1 = f.serviceName ∨ bytesOf f.serviceName < bytesOf e.1
  amount : f.amount = .zero
  message : f.message =
    "Multiple support metrics found: " ++ ", ".intercalate (b.metrics.services .support).keys

theorem isAmbiguous_of_process_fails (h : (p.process b sku).Fails f) :
    p.IsAmbiguous b.metrics ∧ p.FailsAtFirst b sku f := by
  obtain ⟨e, ⟨before, after, hentries, hbefore⟩, hfails⟩ := process_fails_iff.mp h
  obtain ⟨hex, a, ha, rfl⟩ := lineFor_fails_iff.mp hfails
  obtain ⟨hsupport, hseveral, rfl⟩ := Validator.validate_fails.mp ha
  have hjudged : e ∈ p.judged b.metrics :=
    mem_judged.mpr ⟨hentries ▸ List.mem_append_right _ List.mem_cons_self, hex⟩
  have hambiguous : p.IsAmbiguous b.metrics := ⟨hsupport, hseveral, List.ne_nil_of_mem hjudged⟩
  -- what the processor passed over is excluded, as it would have failed there too
  have hexcluded : ∀ y ∈ before, p.isExcluded y.1 b.metrics = true := by
    intro y hy
    obtain ⟨ls, hls⟩ := hbefore y hy
    by_contra hnot
    cases hls.symm.trans (lineFor_fails_of_isAmbiguous hambiguous (Bool.eq_false_iff.mpr hnot))
  refine ⟨hambiguous, ⟨⟨e.2, before, after, hentries, hjudged, hfails, fun y hy => ?_⟩, ?_, rfl, rfl⟩⟩
  · exact lineFor_of_isExcluded (hexcluded y hy)
  · intro y hy
    obtain ⟨hmem, hyex⟩ := mem_judged.mp hy
    have hascending := (b.metrics.services p.metric).ascending
    rw [hentries] at hmem hascending
    rcases List.mem_append.mp hmem with hy' | hy'
    · cases hyex.symm.trans (hexcluded y hy')
    rcases List.mem_cons.mp hy' with rfl | hy'
    · exact .inl rfl
    · exact .inr (lt_iff_bytesOf_lt.mp ((List.pairwise_cons.mp (List.pairwise_append.mp hascending).2.1).1 y hy'))

theorem pairwise_admissible (p : Processor) (m : AccountMetrics) :
    (p.admissible m).Pairwise fun e e' => bytesOf e.1 < bytesOf e'.1 :=
  (((m.services p.metric).ascending.filter _).filter _).imp fun h => lt_iff_bytesOf_lt.mp h

/-- A processor fails exactly when it has a service to judge by one of several support products, and then at the
first of these services, without a line. Otherwise, unless it runs out of decimals, it returns one line for each
admissible service, in byte order, and no other. -/
theorem process_admissible (p : Processor) (b : LineBuilder) (sku : String) :
    ((∃ f, (p.process b sku).Fails f) ↔ p.IsAmbiguous b.metrics) ∧
      (∀ f, (p.process b sku).Fails f → p.FailsAtFirst b sku f ∧
        (b.metrics.services .support).keys.Pairwise fun s s' => bytesOf s < bytesOf s') ∧
      (¬ p.IsAmbiguous b.metrics → (∀ o, ¬ (p.process b sku).RunsOut o) →
        ∃ ls, (p.process b sku).Returns ls ∧ List.Forall₂ (b.Charges sku) (p.admissible b.metrics) ls ∧
          ls.Pairwise fun l l' => bytesOf l.serviceName < bytesOf l'.serviceName) := by
  refine ⟨⟨?_, process_fails_of_isAmbiguous⟩, fun f hf => ⟨(isAmbiguous_of_process_fails hf).2, ?_⟩, ?_⟩
  · rintro ⟨f, hf⟩
    exact (isAmbiguous_of_process_fails hf).1
  · exact (b.metrics.services .support).pairwise_keys.imp lt_iff_bytesOf_lt.mp
  · intro hnot hruns
    rcases Billing.returns_or_fails hruns with ⟨ls, hls⟩ | ⟨f, hf⟩
    · have hlines := (process_returns hls).2
      rw [billed_eq_admissible] at hlines
      have hnames : (ls.map (·.serviceName)).Pairwise fun s s' => bytesOf s < bytesOf s' := by
        rw [map_serviceName_of_validLine hlines]
        exact List.pairwise_map.mpr (p.pairwise_admissible b.metrics)
      rw [List.pairwise_map] at hnames
      exact ⟨ls, hls, hlines.imp fun _ _ => LineBuilder.charges_of_validLine, hnames⟩
    · exact absurd (isAmbiguous_of_process_fails hf).1 hnot

/-- An account with two support products, and two services with usage of which the marketplace charges one; the
other is invoiced by an entity that is paid in yen, 145 for a dollar. -/
def twoProducts : LineBuilder where
  details := ⟨"AGR-1", "123456789012", .first, .last, "COM"⟩
  accountId := "210987654321"
  metrics := ((((({} : AccountMetrics).set .support
    (.ofList [("AWS Support (Developer)", .one), ("AWS Support (Business)", .hundred)])).set .usage
    (.ofList [("Amazon EC2", .hundred), ("Bitnami", .one)])).set .marketplace
    (.ofList [("Bitnami", .one)]))).setInvoiceEntity "Amazon EC2" "Amazon Web Services Japan G.K."
  invoices := { entities := .ofList [("Amazon Web Services Japan G.K.", ⟨"INV-1", "USD", "JPY", .ofNat 145⟩)] }

theorem process_admissible_twoProducts :
    (∃ f, ((support (.ofNat 7) .zero).process twoProducts "AWS Support").Fails f ∧
      (support (.ofNat 7) .zero).FailsAtFirst twoProducts "AWS Support" f ∧
      f.serviceName = "AWS Support (Business)") ∧
    ¬ otherServices.IsAmbiguous twoProducts.metrics ∧
    (∀ o, ¬ (otherServices.process twoProducts "AWS Other services").RunsOut o) ∧
    ∃ ls, (otherServices.process twoProducts "AWS Other services").Returns ls ∧
      List.Forall₂ (twoProducts.Charges "AWS Other services") (otherServices.admissible twoProducts.metrics) ls ∧
      ls.map (fun l => (l.serviceName, l.amount.coefficient, l.amount.scale)) = [("Amazon EC2", 14500, 0)] := by
  have hfails : ((support (.ofNat 7) .zero).process twoProducts "AWS Support").Fails
      ⟨"AWS Support (Business)", .zero,
        "Multiple support metrics found: AWS Support (Business), AWS Support (Developer)"⟩ := by
    show ExceptT.run _ = _
    decide +kernel
  have hvalue : (otherServices.process twoProducts "AWS Other services").value?.map
      (fun ls => ls.map fun l => (l.serviceName, l.amount.coefficient, l.amount.scale)) =
        some [("Amazon EC2", 14500, 0)] := by
    decide +kernel
  obtain ⟨ls, hls, hcharged⟩ := Option.map_eq_some_iff.mp hvalue
  have hls := Billing.value?_eq_some.mp hls
  have hnot : ¬ otherServices.IsAmbiguous twoProducts.metrics := fun h => by
    simpa [Validator.IsOfSupport, otherServices] using h.ofSupport
  have hruns : ∀ o, ¬ (otherServices.process twoProducts "AWS Other services").RunsOut o := fun o h => by
    cases hls.symm.trans h
  obtain ⟨-, hfirst, -⟩ := process_admissible (support (.ofNat 7) .zero) twoProducts "AWS Support"
  obtain ⟨-, -, hlines⟩ := process_admissible otherServices twoProducts "AWS Other services"
  obtain ⟨ls', hls', hcharges, -⟩ := hlines hnot hruns
  cases hls.symm.trans hls'
  exact ⟨⟨_, hfails, (hfirst _ hfails).1, rfl⟩, hnot, hruns, ls, hls, hcharges, hcharged⟩

end Processor

end CostJournal
