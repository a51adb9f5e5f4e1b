import CostJournal.Failure
import Mathlib.Data.List.Forall2

/-!
# What computations return

A computation with amounts returns a value, fails, or runs out of decimals. `Returns` and `Fails`
name the first two for `Billing`; the lemmas take binds and lists of steps apart, so that no proof
about lines opens a monad.
-/

namespace CostJournal

instance instDecidableEqExcept {ε α : Type} [DecidableEq ε] [DecidableEq α] : DecidableEq (Except ε α)
  | .ok a, .ok b => decidable_of_iff (a = b) (by rw [Except.ok.injEq])
  | .error a, .error b => decidable_of_iff (a = b) (by rw [Except.error.injEq])
  | .ok _, .error _ => isFalse (by rintro ⟨⟩)
  | .error _, .ok _ => isFalse (by rintro ⟨⟩)

section
variable {ε α β : Type}

theorem bind_eq_ok {x : Except ε α} {f : α → Except ε β} {b : β} :
    x >>= f = .ok b ↔ ∃ a, x = .ok a ∧ f a = .ok b := by
  cases x <;> simp [bind, Except.bind]

theorem pure_eq_ok {a b : α} : (pure a : Except ε α) = .ok b ↔ a = b := by
  simp [pure, Except.pure]

theorem toOption_eq_some {x : Except ε α} {a : α} : x.toOption = some a ↔ x = .ok a := by
  cases x <;> simp [Except.toOption]

theorem map_eq_ok {x : Except ε α} {f : α → β} {b : β} :
    x.map f = .ok b ↔ ∃ a, x = .ok a ∧ f a = b := by
  cases x <;> simp [Except.map]

theorem toOption_bind {x y : Except ε α} {f g : α → Except ε β} (h : x.toOption = y.toOption)
    (hf : ∀ a, (f a).toOption = (g a).toOption) : (x >>= f).toOption = (y >>= g).toOption := by
  match x, y with
  | .ok a, .ok a' =>
    cases h
    exact hf a
  | .error _, .error _ => rfl
  | .ok _, .error _ => cases h
  | .error _, .ok _ => cases h

theorem toOption_foldlM {f g : β → α → Except ε β} (h : ∀ b x, (f b x).toOption = (g b x).toOption) (xs : List α)
    (b : β) : (xs.foldlM f b).toOption = (xs.foldlM g b).toOption := by
  induction xs generalizing b with
  | nil => rfl
  | cons x xs ih =>
    rw [List.foldlM_cons, List.foldlM_cons]
    exact toOption_bind (h b x) ih

theorem mapM_eq_ok {f : α → Except ε β} {xs : List α} {ys : List β} :
    xs.mapM f = .ok ys ↔ List.Forall₂ (fun x y => f x = .ok y) xs ys := by
  induction xs generalizing ys with
  | nil => rw [List.mapM_nil, pure_eq_ok, List.forall₂_nil_left_iff, eq_comm]
  | cons x xs ih =>
    simp only [List.mapM_cons, bind_eq_ok, pure_eq_ok, ih, List.forall₂_cons_left_iff]
    constructor
    · rintro ⟨y, hy, rest, hrest, rfl⟩
      exact ⟨y, rest, hy, hrest, rfl⟩
    · rintro ⟨y, rest, hy, hrest, rfl⟩
      exact ⟨y, hy, rest, hrest, rfl⟩

end

section
variable {α β γ : Type} {R : α → β → Prop} {xs : List α} {ys : List β}

theorem exists_left_of_mem {y : β} (h : List.Forall₂ R xs ys) (hy : y ∈ ys) : ∃ x ∈ xs, R x y := by
  induction h with
  | nil => cases hy
  | @cons x y' xs _ hxy _ ih =>
    rcases List.mem_cons.mp hy with rfl | hy
    · exact ⟨x, List.mem_cons_self, hxy⟩
    · obtain ⟨x', hx', hR⟩ := ih hy
      exact ⟨x', List.mem_cons_of_mem _ hx', hR⟩

theorem exists_right_of_mem {x : α} (h : List.Forall₂ R xs ys) (hx : x ∈ xs) : ∃ y ∈ ys, R x y :=
  exists_left_of_mem h.flip hx

theorem map_eq_map_of_forall₂ {f : α → γ} {g : β → γ} (h : List.Forall₂ R xs ys)
    (hfg : ∀ x ∈ xs, ∀ y, R x y → g y = f x) : ys.map g = xs.map f := by
  induction h with
  | nil => rfl
  | cons hxy _ ih =>
    obtain ⟨hhead, htail⟩ := List.forall_mem_cons.mp hfg
    rw [List.map_cons, List.map_cons, hhead _ hxy, ih htail]

end

namespace Billing
variable {ε α β : Type}

/-- The computation ends with a value. -/
def Returns (x : Billing ε α) (a : α) : Prop := x.run = .ok (.ok a)

/-- The computation fails without running out of decimals. -/
def Fails (x : Billing ε α) (e : ε) : Prop := x.run = .ok (.error e)

instance [DecidableEq ε] [DecidableEq α] (x : Billing ε α) (a : α) : Decidable (x.Returns a) :=
  inferInstanceAs (Decidable (x.run = .ok (.ok a)))

/-- The value that the computation ends with, if it does. -/
def value? (x : Billing ε α) : Option α :=
  match x.run with
  | .ok (.ok a) => some a
  | _ => none

theorem value?_eq_some {x : Billing ε α} {a : α} : x.value? = some a ↔ x.Returns a := by
  unfold value? Returns
  match x.run with
  | .ok (.ok b) => simp
  | .ok (.error _) => simp
  | .error _ => simp

theorem run_bind (x : Billing ε α) (f : α → Billing ε β) :
    ExceptT.run (x >>= f) = x.run >>= fun
      | .ok a => (f a).run
      | .error e => pure (.error e) := rfl

theorem returns_pure {a b : α} : (pure a : Billing ε α).Returns b ↔ a = b := by
  show (Except.ok (Except.ok a) : Checked (Except ε α)) = .ok (.ok b) ↔ a = b
  simp

theorem fails_pure {a : α} {e : ε} : ¬ (pure a : Billing ε α).Fails e := by
  show (Except.ok (Except.ok a) : Checked (Except ε α)) ≠ .ok (.error e)
  simp

theorem returns_throw {e : ε} {a : α} : ¬ (throw e : Billing ε α).Returns a := by
  show (Except.ok (Except.error e) : Checked (Except ε α)) ≠ .ok (.ok a)
  simp

theorem fails_throw {e e' : ε} : (throw e : Billing ε α).Fails e' ↔ e = e' := by
  show (Except.ok (Except.error e) : Checked (Except ε α)) = .ok (.error e') ↔ e = e'
  simp

theorem returns_bind {x : Billing ε α} {f : α → Billing ε β} {b : β} :
    (x >>= f).Returns b ↔ ∃ a, x.Returns a ∧ (f a).Returns b := by
  unfold Returns
  rw [run_bind, bind_eq_ok]
  constructor
  · rintro ⟨_ | a, hx, h⟩
    · cases h
    · exact ⟨a, hx, h⟩
  · rintro ⟨a, hx, h⟩
    exact ⟨.ok a, hx, h⟩

theorem fails_bind {x : Billing ε α} {f : α → Billing ε β} {e : ε} :
    (x >>= f).Fails e ↔ x.Fails e ∨ ∃ a, x.Returns a ∧ (f a).Fails e := by
  unfold Fails Returns
  rw [run_bind, bind_eq_ok]
  constructor
  · rintro ⟨e' | a, hx, h⟩
    · cases h
      exact .inl hx
    · exact .inr ⟨a, hx, h⟩
  · rintro (hx | ⟨a, hx, h⟩)
    · exact ⟨.error e, hx, rfl⟩
    · exact ⟨.ok a, hx, h⟩

/-- A checked computation has no failure of its own. -/
theorem run_liftM (x : Checked α) : (liftM x : Billing ε α).run = x >>= fun a => pure (.ok a) := rfl

theorem returns_liftM {x : Checked α} {a : α} : (liftM x : Billing ε α).Returns a ↔ x = .ok a := by
  unfold Returns
  rw [run_liftM, bind_eq_ok]
  simp [pure_eq_ok]

theorem fails_liftM {x : Checked α} {e : ε} : ¬ (liftM x : Billing ε α).Fails e := by
  unfold Fails
  rw [run_liftM, bind_eq_ok]
  simp [pure_eq_ok]

theorem run_ofExcept {x y : Except ε α} : (ofExcept x).run = .ok y ↔ x = y := by
  show (Except.ok x : Checked (Except ε α)) = .ok y ↔ x = y
  simp

theorem returns_ofExcept {x : Except ε α} {a : α} : (ofExcept x).Returns a ↔ x = .ok a := run_ofExcept

theorem fails_ofExcept {x : Except ε α} {e : ε} : (ofExcept x).Fails e ↔ x = .error e := run_ofExcept

theorem returns_mapM {f : α → Billing ε β} {xs : List α} {ys : List β} :
    (xs.mapM f : Billing ε (List β)).Returns ys ↔ List.Forall₂ (fun x y => (f x).Returns y) xs ys := by
  induction xs generalizing ys with
  | nil => rw [List.mapM_nil, returns_pure, List.forall₂_nil_left_iff, eq_comm]
  | cons x xs ih =>
    simp only [List.mapM_cons, returns_bind, returns_pure, ih, List.forall₂_cons_left_iff]
    constructor
    · rintro ⟨y, hy, rest, hrest, rfl⟩
      exact ⟨y, rest, hy, hrest, rfl⟩
    · rintro ⟨y, rest, hy, hrest, rfl⟩
      exact ⟨y, hy, rest, hrest, rfl⟩

end Billing

end CostJournal
