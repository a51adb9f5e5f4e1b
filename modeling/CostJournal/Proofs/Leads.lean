import CostJournal.Proofs.Turns
import Mathlib.Order.Defs.Unbundled

/-!
# Where runs lead

`Run.Leads S x` says that `x` leads from every world to one that `S` relates to it. It speaks of the
world that is left in any case, also of a run that decimals cut short. For a preorder `S` there is one
rule for each way in which runs are put together, so that what every call does the whole program does.
-/

namespace CostJournal

variable {σ α β : Type}

/-- The world once a call is answered. -/
def World.after (w : World σ) (call : Call) (answer : σ → α × σ) : World σ :=
  ⟨(answer w.state).2, w.calls ++ [call]⟩

namespace Run

def Leads (S : World σ → World σ → Prop) (x : Run σ α) : Prop := ∀ w, S w (x.result w).2

/-- A run that ends leads to where it ends. -/
theorem Ends.leads {S : World σ → World σ → Prop} {x : Run σ α} {w w' : World σ} {a : α}
    (h : x.Ends w a w') (hx : x.Leads S) : S w w' := by
  have hw := hx w
  rwa [show x.result w = (.ok a, w') from h] at hw

namespace Leads
variable {S : World σ → World σ → Prop} [IsPreorder (World σ) S]

theorem pure (a : α) : Leads S (pure a) := fun w => refl_of S w

/-- From one world: what follows need lead on only from where the first run ends. -/
theorem bind_from {x : Run σ α} {f : α → Run σ β} {w : World σ} (hx : S w (x.result w).2)
    (hf : ∀ a w', x.Ends w a w' → S w' ((f a).result w').2) : S w ((x >>= f).result w).2 := by
  rw [result_bind]
  match hxw : x.result w with
  | (.error _, w₁) =>
    rw [hxw] at hx
    exact hx
  | (.ok a, w₁) =>
    rw [hxw] at hx
    exact trans_of S hx (hf a w₁ hxw)

/-- What follows need lead on only from what the first run can end with. -/
theorem bind {x : Run σ α} {f : α → Run σ β} (hx : Leads S x)
    (hf : ∀ a w w', x.Ends w a w' → Leads S (f a)) : Leads S (x >>= f) :=
  fun w => bind_from (hx w) fun a w₁ hxw => hf a w w₁ hxw w₁

omit [IsPreorder (World σ) S] in
theorem perform {call : Call} {answer : σ → α × σ} (h : ∀ w, S w (w.after call answer)) :
    Leads S (perform call answer) := h

theorem tell {c : Collaborators σ} {n : Notice} (h : ∀ w, S w (w.after (.notify n) (c.notify n))) :
    Leads S (tell c n) :=
  (perform h).bind fun _ _ _ _ => pure ()

theorem foldlM {f : β → α → Run σ β} (h : ∀ b x, Leads S (f b x)) (xs : List α) (b : β) :
    Leads S (xs.foldlM f b) := by
  induction xs generalizing b with
  | nil => exact pure b
  | cons x xs ih =>
    rw [List.foldlM_cons]
    exact (h b x).bind fun b' _ _ _ => ih b'

/-- From one world: each element need lead on only from where those before it end. -/
theorem mapM_from {f : α → Run σ β} {xs : List α} {w : World σ}
    (h : ∀ before x after ys w₁, xs = before ++ x :: after →
      InTurn (fun x w y w' => (f x).Ends w y w') before w ys w₁ → S w₁ ((f x).result w₁).2) :
    S w (Run.result (xs.mapM f) w).2 := by
  induction xs generalizing w with
  | nil => exact refl_of S w
  | cons x xs ih =>
    rw [List.mapM_cons]
    refine bind_from (h [] x xs [] w rfl .nil) fun y w₁ hy => ?_
    refine bind_from (ih fun before x' after ys w₂ hxs hbefore => ?_) fun ys w₂ _ => refl_of S w₂
    exact h (x :: before) x' after (y :: ys) w₂ (by rw [hxs]; rfl) (.cons hy hbefore)

theorem mapM {f : α → Run σ β} (h : ∀ x, Leads S (f x)) (xs : List α) : Leads S (xs.mapM f) :=
  fun _ => mapM_from fun _ x _ _ w _ _ => h x w

end Leads

end Run

namespace Task

def Leads (S : World σ → World σ → Prop) (x : Task σ α) : Prop := Run.Leads S (ExceptT.run x)

namespace Leads
variable {S : World σ → World σ → Prop} [IsPreorder (World σ) S]

theorem pure (a : α) : Leads S (pure a) := Run.Leads.pure (Except.ok a)

theorem throw (e : Failure) : Leads (α := α) S (throw e) := Run.Leads.pure (Except.error e)

theorem bind_from {x : Task σ α} {f : α → Task σ β} {w : World σ} (hx : S w (Run.result x.run w).2)
    (hf : ∀ a w', x.Ends w (.ok a) w' → S w' (Run.result (f a).run w').2) :
    S w (Run.result (x >>= f).run w).2 :=
  Run.Leads.bind_from hx fun r w' h =>
    match r with
    | .error _ => refl_of S w'
    | .ok a => hf a w' h

theorem bind {x : Task σ α} {f : α → Task σ β} (hx : Leads S x)
    (hf : ∀ a w w', x.Ends w (.ok a) w' → Leads S (f a)) : Leads S (x >>= f) :=
  fun w => bind_from (hx w) fun a w' h => hf a w w' h w'

theorem map {x : Task σ α} (f : α → β) (hx : Leads S x) : Leads S (f <$> x) := by
  rw [map_eq_pure_bind]
  exact hx.bind fun a _ _ _ => pure (f a)

omit [IsPreorder (World σ) S] in
theorem call {call : Call} {answer : σ → Except Failure α × σ} (h : ∀ w, S w (w.after call answer)) :
    Leads S (Task.call call answer) := h

theorem provide {call : Call} {answer : σ → Except ProviderFailure α × σ}
    (h : ∀ w, S w (w.after call answer)) : Leads S (Task.provide call answer) :=
  (Run.Leads.perform h).bind fun r _ _ _ =>
    match r with
    | .ok a => Run.Leads.pure (Except.ok a)
    | .error e => Run.Leads.pure (Except.error e.toFailure)

theorem compute (x : Billing Failure α) : Leads S (Task.compute x) := fun w => refl_of S w

theorem liftM_from {x : Run σ α} {w : World σ} (hx : S w (x.result w).2) :
    S w (Run.result (liftM x : Task σ α).run w).2 :=
  Run.Leads.bind_from hx fun _ w' _ => refl_of S w'

theorem liftM {x : Run σ α} (hx : x.Leads S) : Leads S (liftM x) := fun w => liftM_from (hx w)

end Leads

end Task

end CostJournal
