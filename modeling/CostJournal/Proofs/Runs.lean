import CostJournal.Generator.Collaborators
import CostJournal.Proofs.Returns

/-!
# How runs end

`Run.Ends x w a w'` says that a run that starts in the world `w` ends with `a` and leaves `w'`. A task
ends with a value or a failure, and goes on after neither. The lemmas take both apart step by step; a
run that decimals end early has no end.
-/

namespace CostJournal

namespace Run
variable {σ α β : Type} {w w' : World σ}

/-- What comes of a run that starts in a world, and the world after it. -/
def result (x : Run σ α) (w : World σ) : Checked α × World σ := (ExceptT.run x).run w

def Ends (x : Run σ α) (w : World σ) (a : α) (w' : World σ) : Prop := x.result w = (.ok a, w')

/-- What the run ends with, if it does, and the world it leaves. -/
def value? (x : Run σ α) (w : World σ) : Option (α × World σ) :=
  match x.result w with
  | (.ok a, w') => some (a, w')
  | (.error _, _) => none

theorem value?_eq_some {x : Run σ α} {a : α} : x.value? w = some (a, w') ↔ x.Ends w a w' := by
  unfold value? Ends
  match x.result w with
  | (.ok b, w₁) => simp
  | (.error _, _) => simp

/-- The run is cut short by an amount that does not fit. -/
def Overflows (x : Run σ α) (w : World σ) : Prop := ∃ e, (x.result w).1 = .error e

instance (x : Run σ α) (w : World σ) : Decidable (x.Overflows w) :=
  match h : (x.result w).1 with
  | .ok _ => isFalse fun ⟨_, he⟩ => nomatch h.symm.trans he
  | .error e => isTrue ⟨e, h⟩

/-- A run ends unless decimals cut it short. -/
theorem ends_of_not_overflows {x : Run σ α} (h : ¬ x.Overflows w) : ∃ a w', x.Ends w a w' := by
  match hx : x.result w with
  | (.ok a, w') => exact ⟨a, w', hx⟩
  | (.error e, _) => exact absurd ⟨e, by rw [hx]⟩ h

theorem ends_pure {a b : α} : (pure a : Run σ α).Ends w b w' ↔ b = a ∧ w' = w := by
  show (Except.ok a, w) = (.ok b, w') ↔ _
  simp [eq_comm]

theorem result_bind (x : Run σ α) (f : α → Run σ β) (w : World σ) :
    (x >>= f).result w =
      match x.result w with
      | (.ok a, w₁) => (f a).result w₁
      | (.error e, w₁) => (.error e, w₁) := by
  show (match x.result w with
    | (r, w₁) => StateT.run (ExceptT.bindCont f r) w₁) = _
  match x.result w with
  | (.ok _, _) => rfl
  | (.error _, _) => rfl

theorem ends_bind {x : Run σ α} {f : α → Run σ β} {b : β} :
    (x >>= f).Ends w b w' ↔ ∃ a w₁, x.Ends w a w₁ ∧ (f a).Ends w₁ b w' := by
  unfold Ends
  rw [result_bind]
  match x.result w with
  | (.ok a, w₁) => simp
  | (.error _, _) => simp

/-- A run ends in one way. -/
theorem ends_bind_of_ends {x : Run σ α} {f : α → Run σ β} {a : α} {b : β} {w₁ : World σ}
    (hx : x.Ends w a w₁) : (x >>= f).Ends w b w' ↔ (f a).Ends w₁ b w' := by
  unfold Ends at hx ⊢
  rw [result_bind, hx]

theorem ends_perform {call : Call} {answer : σ → α × σ} {a : α} :
    (perform call answer).Ends w a w' ↔
      a = (answer w.state).1 ∧ w' = ⟨(answer w.state).2, w.calls ++ [call]⟩ := by
  show (Except.ok (answer w.state).1, (⟨(answer w.state).2, w.calls ++ [call]⟩ : World σ)) = (.ok a, w') ↔ _
  simp [eq_comm]

theorem ends_tell {c : Collaborators σ} {n : Notice} {u : Unit} :
    (tell c n).Ends w u w' ↔ w' = ⟨(c.notify n w.state).2, w.calls ++ [.notify n]⟩ := by
  unfold tell
  simp only [ends_bind, ends_perform, ends_pure]
  constructor
  · rintro ⟨_, w₁, ⟨-, hw₁⟩, -, rfl⟩
    exact hw₁
  · rintro rfl
    exact ⟨_, _, ⟨rfl, rfl⟩, trivial, rfl⟩

end Run

namespace Task
variable {σ α β : Type} {w w' : World σ}

/-- The task ends with a value or a failure. -/
def Ends (x : Task σ α) (w : World σ) (r : Except Failure α) (w' : World σ) : Prop :=
  Run.Ends (ExceptT.run x) w r w'

theorem ends_pure {a : α} {r : Except Failure α} : (pure a : Task σ α).Ends w r w' ↔ r = .ok a ∧ w' = w :=
  Run.ends_pure (a := Except.ok a)

theorem ends_throw {e : Failure} {r : Except Failure α} :
    (throw e : Task σ α).Ends w r w' ↔ r = .error e ∧ w' = w :=
  Run.ends_pure (a := Except.error e)

theorem ends_bind {x : Task σ α} {f : α → Task σ β} {r : Except Failure β} :
    (x >>= f).Ends w r w' ↔
      (∃ e, x.Ends w (.error e) w' ∧ r = .error e) ∨ ∃ a w₁, x.Ends w (.ok a) w₁ ∧ (f a).Ends w₁ r w' := by
  show Run.Ends (ExceptT.run x >>= ExceptT.bindCont f) w r w' ↔ _
  rw [Run.ends_bind]
  constructor
  · rintro ⟨e | a, w₁, hx, h⟩
    · obtain ⟨hr, rfl⟩ := Run.ends_pure.mp h
      exact .inl ⟨e, hx, hr⟩
    · exact .inr ⟨a, w₁, hx, h⟩
  · rintro (⟨e, hx, rfl⟩ | ⟨a, w₁, hx, h⟩)
    · exact ⟨.error e, w', hx, Run.ends_pure.mpr ⟨rfl, rfl⟩⟩
    · exact ⟨.ok a, w₁, hx, h⟩

theorem ends_bind_of_ends {x : Task σ α} {f : α → Task σ β} {a : α} {r : Except Failure β} {w₁ : World σ}
    (hx : x.Ends w (.ok a) w₁) : (x >>= f).Ends w r w' ↔ (f a).Ends w₁ r w' :=
  Run.ends_bind_of_ends hx

theorem ends_bind_ok {x : Task σ α} {f : α → Task σ β} {b : β} :
    (x >>= f).Ends w (.ok b) w' ↔ ∃ a w₁, x.Ends w (.ok a) w₁ ∧ (f a).Ends w₁ (.ok b) w' := by
  rw [ends_bind]
  simp

theorem ends_call {call : Call} {answer : σ → Except Failure α × σ} {r : Except Failure α} :
    (Task.call call answer).Ends w r w' ↔
      r = (answer w.state).1 ∧ w' = ⟨(answer w.state).2, w.calls ++ [call]⟩ :=
  Run.ends_perform

theorem ends_call_bind {call : Call} {answer : σ → Except Failure α × σ} {f : α → Task σ β}
    {r : Except Failure β} :
    (Task.call call answer >>= f).Ends w r w' ↔
      (∃ e state, answer w.state = (.error e, state) ∧ r = .error e ∧ w' = ⟨state, w.calls ++ [call]⟩) ∨
      ∃ a state, answer w.state = (.ok a, state) ∧ (f a).Ends ⟨state, w.calls ++ [call]⟩ r w' := by
  rw [ends_bind]
  simp only [ends_call]
  match answer w.state with
  | (.ok a, state) => simp
  | (.error e, state) => simp [and_comm]

theorem ends_provide {call : Call} {answer : σ → Except ProviderFailure α × σ} {r : Except Failure α} :
    (provide call answer).Ends w r w' ↔
      r = (answer w.state).1.mapError ProviderFailure.toFailure ∧
        w' = ⟨(answer w.state).2, w.calls ++ [call]⟩ := by
  show Run.Ends (Run.perform call answer >>= _) w r w' ↔ _
  simp only [Run.ends_bind, Run.ends_perform]
  match answer w.state with
  | (.ok a, state) =>
    simp only [Except.mapError]
    constructor
    · rintro ⟨_, _, ⟨rfl, rfl⟩, h⟩
      exact Run.ends_pure.mp h
    · rintro ⟨rfl, rfl⟩
      exact ⟨_, _, ⟨rfl, rfl⟩, Run.ends_pure.mpr ⟨rfl, rfl⟩⟩
  | (.error e, state) =>
    simp only [Except.mapError]
    constructor
    · rintro ⟨_, _, ⟨rfl, rfl⟩, h⟩
      exact Run.ends_pure.mp h
    · rintro ⟨rfl, rfl⟩
      exact ⟨_, _, ⟨rfl, rfl⟩, Run.ends_pure.mpr ⟨rfl, rfl⟩⟩

theorem answer_of_ends_provide {call : Call} {answer : σ → Except ProviderFailure α × σ} {a : α}
    (h : (provide call answer).Ends w (.ok a) w') : (answer w.state).1 = .ok a := by
  obtain ⟨hr, -⟩ := ends_provide.mp h
  match hanswer : (answer w.state).1 with
  | .ok b =>
    rw [hanswer] at hr
    cases hr
    rfl
  | .error e =>
    rw [hanswer] at hr
    cases hr

theorem ends_provide_bind {call : Call} {answer : σ → Except ProviderFailure α × σ} {f : α → Task σ β}
    {r : Except Failure β} :
    (provide call answer >>= f).Ends w r w' ↔
      (∃ e state, answer w.state = (.error e, state) ∧ r = .error e.toFailure ∧
        w' = ⟨state, w.calls ++ [call]⟩) ∨
      ∃ a state, answer w.state = (.ok a, state) ∧ (f a).Ends ⟨state, w.calls ++ [call]⟩ r w' := by
  rw [ends_bind]
  simp only [ends_provide]
  match answer w.state with
  | (.ok a, state) => simp [Except.mapError]
  | (.error e, state) => simp [Except.mapError, and_comm]

theorem ends_compute {x : Billing Failure α} {r : Except Failure α} :
    (compute x).Ends w r w' ↔ x.run = .ok r ∧ w' = w := by
  show (x.run, w) = (.ok r, w') ↔ _
  simp [eq_comm]

theorem ends_compute_bind {x : Billing Failure α} {f : α → Task σ β} {r : Except Failure β} :
    (compute x >>= f).Ends w r w' ↔
      (∃ e, x.Fails e ∧ r = .error e ∧ w' = w) ∨ ∃ a, x.Returns a ∧ (f a).Ends w r w' := by
  rw [ends_bind]
  simp only [ends_compute, Billing.Fails, Billing.Returns]
  refine or_congr (exists_congr fun e => ?_) (exists_congr fun a => ?_)
  · rw [and_assoc, and_comm (a := w' = w)]
  · constructor
    · rintro ⟨_, ⟨hx, rfl⟩, hf⟩
      exact ⟨hx, hf⟩
    · rintro ⟨hx, hf⟩
      exact ⟨w, ⟨hx, rfl⟩, hf⟩

theorem ends_liftM {x : Run σ α} {r : Except Failure α} :
    (liftM x : Task σ α).Ends w r w' ↔ ∃ a, x.Ends w a w' ∧ r = .ok a := by
  show Run.Ends (x >>= fun a => pure (Except.ok a)) w r w' ↔ _
  simp only [Run.ends_bind, Run.ends_pure]
  constructor
  · rintro ⟨a, _, hx, rfl, rfl⟩
    exact ⟨a, hx, rfl⟩
  · rintro ⟨a, hx, rfl⟩
    exact ⟨a, w', hx, rfl, rfl⟩

/-- A run that is no failure of the task goes on with what follows. -/
theorem ends_liftM_bind {x : Run σ α} {f : α → Task σ β} {r : Except Failure β} :
    (liftM x >>= f : Task σ β).Ends w r w' ↔ ∃ a w₁, x.Ends w a w₁ ∧ (f a).Ends w₁ r w' := by
  rw [ends_bind]
  simp only [ends_liftM]
  constructor
  · rintro (⟨_, ⟨_, -, he⟩, -⟩ | ⟨_, w₁, ⟨a, hx, ha⟩, hf⟩)
    · cases he
    · cases ha
      exact ⟨_, w₁, hx, hf⟩
  · rintro ⟨a, w₁, hx, hf⟩
    exact .inr ⟨a, w₁, ⟨a, hx, rfl⟩, hf⟩
end Task

end CostJournal
