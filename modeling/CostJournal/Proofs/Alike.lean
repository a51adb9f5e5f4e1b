import CostJournal.Proofs.Runs

/-!
# Runs that go alike

`Run.Alike R x y` compares two runs from states that `R` relates: they come to the same result, make
the same calls, and leave states that `R` relates again. There is one rule for each way in which runs
are put together, so that a program goes alike as soon as every call that it makes is answered alike.
-/

namespace CostJournal

variable {σ α β : Type} {R : σ → σ → Prop}

/-- From related states both answers are the same and leave related states. -/
def AnswersAlike (R : σ → σ → Prop) (f f' : σ → α × σ) : Prop :=
  ∀ s s', R s s' → (f s).1 = (f' s').1 ∧ R (f s).2 (f' s').2

namespace Run

def Alike (R : σ → σ → Prop) (x y : Run σ α) : Prop :=
  ∀ w w', R w.state w'.state → ∃ r new s s', R s s' ∧
    x.result w = (r, ⟨s, w.calls ++ new⟩) ∧ y.result w' = (r, ⟨s', w'.calls ++ new⟩)

namespace Alike

theorem pure (a : α) : Alike R (pure a) (pure a) := by
  intro w w' hR
  refine ⟨.ok a, [], w.state, w'.state, hR, ?_, ?_⟩
  · rw [List.append_nil]
    rfl
  · rw [List.append_nil]
    rfl

/-- What follows need go alike only for what the first run can end with. -/
theorem bind {x y : Run σ α} {f g : α → Run σ β} (hx : Alike R x y)
    (hf : ∀ a w w', x.Ends w a w' → Alike R (f a) (g a)) : Alike R (x >>= f) (y >>= g) := by
  intro w w' hR
  obtain ⟨r, new, s, s', hs, hxw, hyw⟩ := hx w w' hR
  rw [result_bind, result_bind, hxw, hyw]
  -- both end early, or both go on from related states
  match r with
  | .error e => exact ⟨.error e, new, s, s', hs, rfl, rfl⟩
  | .ok a =>
    obtain ⟨r', new', t, t', ht, hfw, hgw⟩ :=
      hf a w _ hxw ⟨s, w.calls ++ new⟩ ⟨s', w'.calls ++ new⟩ hs
    refine ⟨r', new ++ new', t, t', ht, ?_, ?_⟩
    · rw [← List.append_assoc]
      exact hfw
    · rw [← List.append_assoc]
      exact hgw

theorem perform {call : Call} {f f' : σ → α × σ} (h : AnswersAlike R f f') :
    Alike R (perform call f) (perform call f') := by
  intro w w' hR
  obtain ⟨hanswer, hstate⟩ := h w.state w'.state hR
  refine ⟨.ok (f w.state).1, [call], (f w.state).2, (f' w'.state).2, hstate, rfl, ?_⟩
  rw [hanswer]
  rfl

/-- Whether a notice arrives does not matter. -/
theorem tell {c c' : Collaborators σ} {n : Notice}
    (h : ∀ s s', R s s' → R (c.notify n s).2 (c'.notify n s').2) : Alike R (tell c n) (tell c' n) := by
  intro w w' hR
  exact ⟨.ok (), [.notify n], _, _, h w.state w'.state hR, rfl, rfl⟩

theorem foldlM {f g : β → α → Run σ β} (h : ∀ b x, Alike R (f b x) (g b x)) (xs : List α) (b : β) :
    Alike R (xs.foldlM f b) (xs.foldlM g b) := by
  induction xs generalizing b with
  | nil => exact pure b
  | cons x xs ih =>
    rw [List.foldlM_cons, List.foldlM_cons]
    exact (h b x).bind fun b' _ _ _ => ih b'

theorem mapM {f g : α → Run σ β} (h : ∀ x, Alike R (f x) (g x)) (xs : List α) :
    Alike R (xs.mapM f) (xs.mapM g) := by
  induction xs with
  | nil => exact pure []
  | cons x xs ih =>
    rw [List.mapM_cons, List.mapM_cons]
    exact (h x).bind fun y _ _ _ => ih.bind fun ys _ _ _ => pure (y :: ys)

end Alike

end Run

namespace Task

def Alike (R : σ → σ → Prop) (x y : Task σ α) : Prop := Run.Alike R (ExceptT.run x) (ExceptT.run y)

namespace Alike

theorem pure (a : α) : Alike R (pure a) (pure a) := Run.Alike.pure (Except.ok a)

theorem throw (e : Failure) : Alike (α := α) R (throw e) (throw e) := Run.Alike.pure (Except.error e)

theorem bind {x y : Task σ α} {f g : α → Task σ β} (hx : Alike R x y)
    (hf : ∀ a w w', x.Ends w (.ok a) w' → Alike R (f a) (g a)) : Alike R (x >>= f) (y >>= g) :=
  Run.Alike.bind hx fun r w w' h =>
    match r with
    | .error e => Run.Alike.pure (Except.error e)
    | .ok a => hf a w w' h

theorem map {x y : Task σ α} (f : α → β) (hx : Alike R x y) : Alike R (f <$> x) (f <$> y) := by
  rw [map_eq_pure_bind, map_eq_pure_bind]
  exact hx.bind fun a _ _ _ => pure (f a)

theorem call {call : Call} {f f' : σ → Except Failure α × σ} (h : AnswersAlike R f f') :
    Alike R (Task.call call f) (Task.call call f') :=
  Run.Alike.perform h

theorem provide {call : Call} {f f' : σ → Except ProviderFailure α × σ} (h : AnswersAlike R f f') :
    Alike R (Task.provide call f) (Task.provide call f') :=
  (Run.Alike.perform h).bind fun r _ _ _ =>
    match r with
    | .ok a => Run.Alike.pure (Except.ok a)
    | .error e => Run.Alike.pure (Except.error e.toFailure)

theorem compute (x : Billing Failure α) : Alike R (Task.compute x) (Task.compute x) := by
  intro w w' hR
  refine ⟨x.run, [], w.state, w'.state, hR, ?_, ?_⟩
  · rw [List.append_nil]
    rfl
  · rw [List.append_nil]
    rfl

theorem liftM {x y : Run σ α} (hx : x.Alike R y) : Alike R (liftM x) (liftM y) :=
  hx.bind fun a _ _ _ => Run.Alike.pure (Except.ok a)

end Alike

end Task

end CostJournal
