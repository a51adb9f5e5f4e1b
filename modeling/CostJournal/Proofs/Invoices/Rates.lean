import CostJournal.Invoicing
import CostJournal.Proofs.Decimal.Units
import CostJournal.Proofs.Returns

/-!
# The rates of entities

`IsHighestRate` says what the highest rate of some invoices is, without computing it. The rate that is
resolved for an entity is the highest of its own invoices in the currency, else the highest of all in
the currency, else zero (`resolveExchangeRate_eq_ok`).
-/

namespace CostJournal

/-- The invoices that are paid in a currency. -/
def paidIn (summaries : List InvoiceSummary) (currency : String) : List InvoiceSummary :=
  summaries.filter (·.isPaidIn currency)

/-- The invoices of an entity that are paid in a currency. -/
def ownPaidIn (summaries : List InvoiceSummary) (entity currency : String) : List InvoiceSummary :=
  (paidIn summaries currency).filter (·.invoicingEntity == entity)

theorem mem_ownPaidIn {summaries : List InvoiceSummary} {entity currency : String} {s : InvoiceSummary} :
    s ∈ ownPaidIn summaries entity currency ↔
      s ∈ summaries ∧ s.isPaidIn currency ∧ s.invoicingEntity = entity := by
  rw [ownPaidIn, paidIn, List.mem_filter, List.mem_filter, beq_iff_eq, and_assoc]

/-- One of the invoices states the rate `r`, and none states a higher one. -/
structure IsHighestRate (invoices : List InvoiceSummary) (r : Decimal) : Prop where
  stated : ∃ s ∈ invoices, s.exchangeRate = .ok r
  highest : ∀ s ∈ invoices, ∃ r', s.exchangeRate = .ok r' ∧ r' ≤ r

theorem IsHighestRate.ne_nil {invoices : List InvoiceSummary} {r : Decimal} (h : IsHighestRate invoices r) :
    invoices ≠ [] := by
  obtain ⟨s, hs, -⟩ := h.stated
  exact List.ne_nil_of_mem hs

section
variable {rates : List Decimal} {acc : Option Decimal} {m : Decimal}

theorem foldl_higherRate_isSome (hacc : acc.isSome) : (rates.foldl higherRate acc).isSome := by
  induction rates generalizing acc with
  | nil => exact hacc
  | cons r rates ih => exact ih rfl

/-- The rate that a search ends with is the one that it starts from or one of those it meets, and is
at least all of them. -/
theorem foldl_higherRate_eq_some (h : rates.foldl higherRate acc = some m) :
    (acc = some m ∨ m ∈ rates) ∧ (∀ a, acc = some a → a ≤ m) ∧ ∀ r ∈ rates, r ≤ m := by
  induction rates generalizing acc with
  | nil =>
    refine ⟨.inl h, fun a ha => ?_, by simp⟩
    rw [List.foldl_nil] at h
    cases h.symm.trans ha
    exact Decimal.le_refl _
  | cons r rates ih =>
    obtain ⟨hfrom, hacc, hrates⟩ := ih h
    match acc with
    | none =>
      have hr : r ≤ m := hacc r rfl
      refine ⟨.inr ?_, by simp, List.forall_mem_cons.mpr ⟨hr, hrates⟩⟩
      rcases hfrom with hfrom | hfrom
      · cases hfrom
        exact List.mem_cons_self
      · exact List.mem_cons_of_mem _ hfrom
    | some a =>
      have hmax : a.max r ≤ m := hacc _ rfl
      refine ⟨?_, fun b hb => ?_, List.forall_mem_cons.mpr ⟨?_, hrates⟩⟩
      · rcases hfrom with hfrom | hfrom
        · cases hfrom
          rcases a.max_eq_or r with heq | heq
          · exact .inl (congrArg some heq.symm)
          · exact .inr (List.mem_cons.mpr (.inl heq))
        · exact .inr (List.mem_cons_of_mem _ hfrom)
      · cases hb
        exact Decimal.le_trans (a.le_max_left r) hmax
      · exact Decimal.le_trans (a.le_max_right r) hmax

theorem highestRate_eq_none (h : highestRate rates = none) : rates = [] := by
  match rates with
  | [] => rfl
  | r :: rates =>
    have hsome : (rates.foldl higherRate (some r)).isSome := foldl_higherRate_isSome rfl
    rw [show rates.foldl higherRate (some r) = none from h] at hsome
    cases hsome

theorem isHighestRate_of_highestRate {invoices : List InvoiceSummary}
    (hrates : List.Forall₂ (fun s r => s.exchangeRate = .ok r) invoices rates)
    (h : highestRate rates = some m) : IsHighestRate invoices m := by
  obtain ⟨hfrom, -, hle⟩ := foldl_higherRate_eq_some h
  obtain ⟨s, hs, hstated⟩ := exists_left_of_mem hrates (hfrom.resolve_left nofun)
  refine ⟨⟨s, hs, hstated⟩, fun s hs => ?_⟩
  obtain ⟨r, hr, hstated⟩ := exists_right_of_mem hrates hs
  exact ⟨r, hstated, hle r hr⟩

end

section
variable {summaries : List InvoiceSummary} {entity currency : String} {r : Decimal}

theorem ratesIn_eq_ok {rates : List (String × Decimal)} (h : ratesIn summaries currency = .ok rates) :
    List.Forall₂ (fun s e => s.exchangeRate = .ok e.2 ∧ s.invoicingEntity = e.1)
      (paidIn summaries currency) rates := by
  refine (mapM_eq_ok.mp h).imp fun s e he => ?_
  obtain ⟨r, hr, he⟩ := bind_eq_ok.mp he
  cases pure_eq_ok.mp he
  exact ⟨hr, rfl⟩

/-- The rate of an entity: the highest of its own invoices, else of all of them, else zero. -/
theorem resolveExchangeRate_eq_ok (h : resolveExchangeRate summaries entity currency = .ok r) :
    IsHighestRate (ownPaidIn summaries entity currency) r ∨
      (ownPaidIn summaries entity currency = [] ∧ IsHighestRate (paidIn summaries currency) r) ∨
      (paidIn summaries currency = [] ∧ r = .zero) := by
  obtain ⟨rates, hrates, h⟩ := bind_eq_ok.mp h
  have hall := ratesIn_eq_ok hrates
  have hown : List.Forall₂ (fun s e => s.exchangeRate = .ok e.2 ∧ s.invoicingEntity = e.1)
      (ownPaidIn summaries entity currency) (rates.filter (·.1 == entity)) :=
    List.rel_filter (fun s e he => by simp only [he.2]) hall
  have hstated : ∀ {invoices : List InvoiceSummary} {es : List (String × Decimal)},
      List.Forall₂ (fun s e => s.exchangeRate = .ok e.2 ∧ s.invoicingEntity = e.1) invoices es →
      List.Forall₂ (fun s r => s.exchangeRate = .ok r) invoices (es.map (·.2)) :=
    fun hes => List.forall₂_map_right_iff.mpr (hes.imp fun _ _ he => he.1)
  match hhigh : highestRate ((rates.filter (·.1 == entity)).map (·.2)) with
  | some own =>
    rw [hhigh] at h
    cases h
    exact .inl (isHighestRate_of_highestRate (hstated hown) hhigh)
  | none =>
    rw [hhigh] at h
    have hnone := List.map_eq_nil_iff.mp (highestRate_eq_none hhigh)
    rw [hnone, List.forall₂_nil_right_iff] at hown
    match hany : highestRate (rates.map (·.2)) with
    | some any =>
      rw [hany] at h
      cases h
      exact .inr (.inl ⟨hown, isHighestRate_of_highestRate (hstated hall) hany⟩)
    | none =>
      rw [hany] at h
      cases h
      have hempty := List.map_eq_nil_iff.mp (highestRate_eq_none hany)
      rw [hempty, List.forall₂_nil_right_iff] at hall
      exact .inr (.inr ⟨hall, rfl⟩)

end

end CostJournal
