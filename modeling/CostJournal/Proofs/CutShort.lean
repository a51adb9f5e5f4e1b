import CostJournal.Proofs.Runs

/-!
# How runs are cut short

A computation that runs out of decimals has no value and no failure, and what would follow is left out.
`Billing.RunsOut` and `Run.Stops` say with which operation, and for a run also in which world. They go
with `Returns` and `Ends` through binds; what that means for lists of steps is said once, for all monads
in which a computation ends or stops (`EndsOrStops`): one step stops, after all before it have ended.
-/

namespace CostJournal

/-- Computations of `m` end with a value or stop with an `ε`, and lead from an `ι` to another one. -/
structure EndsOrStops (m : Type → Type) [Monad m] (ι ε : Type) where
  ends : {α : Type} → m α → ι → α → ι → Prop
  stops : {α : Type} → m α → ι → ε → ι → Prop
  ends_pure {α : Type} {a b : α} {i j : ι} : ends (pure a) i b j ↔ b = a ∧ j = i
  ends_bind {α β : Type} {x : m α} {f : α → m β} {b : β} {i k : ι} :
    ends (x >>= f) i b k ↔ ∃ a j, ends x i a j ∧ ends (f a) j b k
  stops_pure {α : Type} {a : α} {e : ε} {i j : ι} : ¬ stops (pure a) i e j
  stops_bind {α β : Type} {x : m α} {f : α → m β} {e : ε} {i k : ι} :
    stops (x >>= f) i e k ↔ stops x i e k ∨ ∃ a j, ends x i a j ∧ stops (f a) j e k

/-- Going over a list comes to `x`: all elements before it pass. -/
def ComesTo {α : Type} (passes : α → Prop) (xs : List α) (x : α) : Prop :=
  ∃ before after, xs = before ++ x :: after ∧ ∀ y ∈ before, passes y

namespace EndsOrStops
variable {m : Type → Type} [Monad m] {ι ε α β : Type} (s : EndsOrStops m ι ε) {i k : ι} {e : ε}

theorem stops_foldlM {f : β → α → m β} {xs : List α} {b : β} : s.stops (xs.foldlM f b) i e k ↔
    ∃ before x after b' j, xs = before ++ x :: after ∧ s.ends (before.foldlM f b) i b' j ∧
      s.stops (f b' x) j e k := by
  -- the step that stops is the first one, or comes in the rest from what the first one ended with
  induction xs generalizing b i with
  | nil =>
    refine iff_of_false s.stops_pure ?_
    rintro ⟨before, x, after, -, -, hxs, -⟩
    cases before <;> cases hxs
  | cons x xs ih =>
    rw [List.foldlM_cons, s.stops_bind]
    constructor
    · rintro (hstops | ⟨b₁, j, hends, hstops⟩)
      · exact ⟨[], x, xs, b, i, rfl, s.ends_pure.mpr ⟨rfl, rfl⟩, hstops⟩
      · obtain ⟨before, y, after, b', j', rfl, hbefore, hstops⟩ := ih.mp hstops
        refine ⟨x :: before, y, after, b', j', rfl, ?_, hstops⟩
        rw [List.foldlM_cons]
        exact s.ends_bind.mpr ⟨b₁, j, hends, hbefore⟩
    · rintro ⟨before, y, after, b', j, hxs, hbefore, hstops⟩
      cases before with
      | nil =>
        obtain ⟨rfl, rfl⟩ := List.cons.inj hxs
        obtain ⟨rfl, rfl⟩ := s.ends_pure.mp hbefore
        exact .inl hstops
      | cons z before =>
        obtain ⟨rfl, rfl⟩ := List.cons.inj hxs
        rw [List.foldlM_cons] at hbefore
        obtain ⟨b₁, j₁, hends, hbefore⟩ := s.ends_bind.mp hbefore
        exact .inr ⟨b₁, j₁, hends, ih.mpr ⟨before, y, after, b', j, rfl, hbefore, hstops⟩⟩

theorem stops_mapM [LawfulMonad m] {f : α → m β} {xs : List α} : s.stops (xs.mapM f) i e k ↔
    ∃ before x after ys j, xs = before ++ x :: after ∧ s.ends (before.mapM f) i ys j ∧
      s.stops (f x) j e k := by
  induction xs generalizing i with
  | nil =>
    refine iff_of_false s.stops_pure ?_
    rintro ⟨before, x, after, -, -, hxs, -⟩
    cases before <;> cases hxs
  | cons x xs ih =>
    rw [List.mapM_cons, s.stops_bind]
    constructor
    · rintro (hstops | ⟨y, j, hends, hstops⟩)
      · exact ⟨[], x, xs, [], i, rfl, s.ends_pure.mpr ⟨rfl, rfl⟩, hstops⟩
      · rcases s.stops_bind.mp hstops with hstops | ⟨_, _, _, hpure⟩
        · obtain ⟨before, z, after, ys, j', rfl, hbefore, hstops⟩ := ih.mp hstops
          refine ⟨x :: before, z, after, y :: ys, j', rfl, ?_, hstops⟩
          rw [List.mapM_cons]
          exact s.ends_bind.mpr ⟨y, j, hends, s.ends_bind.mpr ⟨ys, j', hbefore, s.ends_pure.mpr ⟨rfl, rfl⟩⟩⟩
        · exact absurd hpure s.stops_pure
    · rintro ⟨before, z, after, ys, j, hxs, hbefore, hstops⟩
      cases before with
      | nil =>
        obtain ⟨rfl, rfl⟩ := List.cons.inj hxs
        obtain ⟨rfl, rfl⟩ := s.ends_pure.mp hbefore
        exact .inl hstops
      | cons z' before =>
        obtain ⟨rfl, rfl⟩ := List.cons.inj hxs
        rw [List.mapM_cons] at hbefore
        obtain ⟨y, j₁, hends, hbefore⟩ := s.ends_bind.mp hbefore
        obtain ⟨ys', j₂, hbefore, hpure⟩ := s.ends_bind.mp hbefore
        obtain ⟨rfl, rfl⟩ := s.ends_pure.mp hpure
        have hrest := ih.mpr ⟨before, z, after, ys', j, rfl, hbefore, hstops⟩
        exact .inr ⟨y, j₁, hends, s.stops_bind.mpr (.inl hrest)⟩

/-- Where nothing is handed on, the steps do not depend on each other. -/
theorem ends_mapM_iff [LawfulMonad m] {s : EndsOrStops m Unit ε} {f : α → m β} {xs : List α} :
    (∃ ys, s.ends (xs.mapM f) () ys ()) ↔ ∀ x ∈ xs, ∃ y, s.ends (f x) () y () := by
  induction xs with
  | nil => exact iff_of_true ⟨[], s.ends_pure.mpr ⟨rfl, rfl⟩⟩ (fun _ h => nomatch h)
  | cons x xs ih =>
    rw [List.forall_mem_cons, ← ih, List.mapM_cons]
    constructor
    · rintro ⟨_, h⟩
      obtain ⟨y, _, hy, h⟩ := s.ends_bind.mp h
      obtain ⟨ys, _, hys, -⟩ := s.ends_bind.mp h
      exact ⟨⟨y, hy⟩, ys, hys⟩
    · rintro ⟨⟨y, hy⟩, ys, hys⟩
      exact ⟨y :: ys, s.ends_bind.mpr ⟨y, (), hy, s.ends_bind.mpr ⟨ys, (), hys, s.ends_pure.mpr ⟨rfl, rfl⟩⟩⟩⟩

theorem stops_mapM_iff [LawfulMonad m] (s : EndsOrStops m Unit ε) {f : α → m β} {xs : List α} :
    s.stops (xs.mapM f) () e () ↔
      ∃ x, ComesTo (fun y => ∃ b, s.ends (f y) () b ()) xs x ∧ s.stops (f x) () e () := by
  rw [s.stops_mapM]
  constructor
  · rintro ⟨before, x, after, ys, ⟨⟩, hxs, hbefore, hx⟩
    exact ⟨x, ⟨before, after, hxs, ends_mapM_iff.mp ⟨ys, hbefore⟩⟩, hx⟩
  · rintro ⟨x, ⟨before, after, hxs, hbefore⟩, hx⟩
    obtain ⟨ys, hys⟩ := ends_mapM_iff.mpr hbefore
    exact ⟨before, x, after, ys, (), hxs, hys, hx⟩

end EndsOrStops

theorem bind_eq_error {ε α β : Type} {x : Except ε α} {f : α → Except ε β} {e : ε} :
    x >>= f = .error e ↔ x = .error e ∨ ∃ a, x = .ok a ∧ f a = .error e := by
  cases x <;> simp [bind, Except.bind]

def Checked.endsOrStops : EndsOrStops Checked Unit Overflow where
  ends x _ a _ := x = .ok a
  stops x _ o _ := x = .error o
  ends_pure := by simp [pure, Except.pure, eq_comm]
  ends_bind := by simp [bind_eq_ok]
  stops_pure := nofun
  stops_bind := by simp [bind_eq_error]

theorem exists_eq_ok_iff {ε α : Type} {x : Except ε α} : (∃ a, x = .ok a) ↔ ∀ e, x ≠ .error e := by
  cases x <;> simp

theorem Checked.mapM_eq_error {α β : Type} {f : α → Checked β} {xs : List α} {o : Overflow} :
    xs.mapM f = .error o ↔ ∃ x, ComesTo (fun y => ∀ o, f y ≠ .error o) xs x ∧ f x = .error o := by
  have hstops : endsOrStops.stops (xs.mapM f) () o () ↔ _ := endsOrStops.stops_mapM_iff
  simp only [endsOrStops, exists_eq_ok_iff] at hstops
  exact hstops

theorem Checked.foldlM_eq_error {α β : Type} {f : β → α → Checked β} {xs : List α} {b : β} {o : Overflow} :
    xs.foldlM f b = .error o ↔
      ∃ before x after b', xs = before ++ x :: after ∧ before.foldlM f b = .ok b' ∧ f b' x = .error o := by
  have hstops : endsOrStops.stops (xs.foldlM f b) () o () ↔ _ := endsOrStops.stops_foldlM
  simpa only [endsOrStops, exists_const] using hstops

namespace Billing
variable {ε α β : Type} {o : Overflow}

/-- The computation neither returns nor fails, since an operation has no result. -/
def RunsOut (x : Billing ε α) (o : Overflow) : Prop := x.run = .error o

theorem runsOut_pure {a : α} : ¬ (pure a : Billing ε α).RunsOut o := nofun

theorem runsOut_throw {e : ε} : ¬ (throw e : Billing ε α).RunsOut o := nofun

theorem runsOut_ofExcept {x : Except ε α} : ¬ (ofExcept x).RunsOut o := nofun

theorem runsOut_bind {x : Billing ε α} {f : α → Billing ε β} :
    (x >>= f).RunsOut o ↔ x.RunsOut o ∨ ∃ a, x.Returns a ∧ (f a).RunsOut o := by
  unfold RunsOut Returns
  rw [run_bind, bind_eq_error]
  refine or_congr_right ⟨?_, fun ⟨a, hx, hf⟩ => ⟨.ok a, hx, hf⟩⟩
  rintro ⟨e | a, hx, hf⟩
  · cases hf
  · exact ⟨a, hx, hf⟩

theorem runsOut_liftM {x : Checked α} : (liftM x : Billing ε α).RunsOut o ↔ x = .error o := by
  unfold RunsOut
  rw [run_liftM, bind_eq_error]
  simp [pure, Except.pure]

/-- A computation that does not run out returns or fails. -/
theorem returns_or_fails {x : Billing ε α} (h : ∀ o, ¬ x.RunsOut o) : (∃ a, x.Returns a) ∨ ∃ e, x.Fails e := by
  unfold RunsOut at h
  unfold Returns Fails
  match hx : x.run with
  | .ok (.ok a) => exact .inl ⟨a, rfl⟩
  | .ok (.error e) => exact .inr ⟨e, rfl⟩
  | .error o => exact absurd hx (h o)

def endsOrStops (ε : Type) : EndsOrStops (Billing ε) Unit Overflow where
  ends x _ a _ := x.Returns a
  stops x _ o _ := x.RunsOut o
  ends_pure := by simp [returns_pure, eq_comm]
  ends_bind := by simp [returns_bind]
  stops_pure := runsOut_pure
  stops_bind := by simp [runsOut_bind]

theorem runsOut_mapM {f : α → Billing ε β} {xs : List α} :
    (xs.mapM f : Billing ε (List β)).RunsOut o ↔
      ∃ x, ComesTo (fun y => ∃ b, (f y).Returns b) xs x ∧ (f x).RunsOut o :=
  (endsOrStops ε).stops_mapM_iff

def endsOrFails (ε : Type) : EndsOrStops (Billing ε) Unit ε where
  ends x _ a _ := x.Returns a
  stops x _ e _ := x.Fails e
  ends_pure := by simp [returns_pure, eq_comm]
  ends_bind := by simp [returns_bind]
  stops_pure := fails_pure
  stops_bind := by simp [fails_bind]

theorem fails_mapM {f : α → Billing ε β} {xs : List α} {e : ε} :
    (xs.mapM f : Billing ε (List β)).Fails e ↔
      ∃ x, ComesTo (fun y => ∃ b, (f y).Returns b) xs x ∧ (f x).Fails e :=
  (endsOrFails ε).stops_mapM_iff

theorem runsOut_foldlM {f : β → α → Billing ε β} {xs : List α} {b : β} :
    (xs.foldlM f b : Billing ε β).RunsOut o ↔ ∃ before x after b', xs = before ++ x :: after ∧
      (before.foldlM f b : Billing ε β).Returns b' ∧ (f b' x).RunsOut o := by
  have hstops : (endsOrStops ε).stops (xs.foldlM f b) () o () ↔ _ := (endsOrStops ε).stops_foldlM
  simpa only [endsOrStops, exists_const] using hstops

theorem fails_foldlM {f : β → α → Billing ε β} {xs : List α} {b : β} {e : ε} :
    (xs.foldlM f b : Billing ε β).Fails e ↔ ∃ before x after b', xs = before ++ x :: after ∧
      (before.foldlM f b : Billing ε β).Returns b' ∧ (f b' x).Fails e := by
  have hstops : (endsOrFails ε).stops (xs.foldlM f b) () e () ↔ _ := (endsOrFails ε).stops_foldlM
  simpa only [endsOrFails, exists_const] using hstops

/-- Two computations return the same, or both fail, for whatever reason, or both run out with the same operation. -/
structure Alike (x y : Billing ε α) : Prop where
  returns : ∀ a, x.Returns a ↔ y.Returns a
  fails : (∃ e, x.Fails e) ↔ ∃ e, y.Fails e
  runsOut : ∀ o, x.RunsOut o ↔ y.RunsOut o

namespace Alike
variable {x y : Billing ε α}

theorem refl (x : Billing ε α) : Alike x x := ⟨fun _ => Iff.rfl, Iff.rfl, fun _ => Iff.rfl⟩

theorem of_returns {a : α} (hx : x.Returns a) (hy : y.Returns a) : Alike x y := by
  obtain rfl : x = y := hx.trans hy.symm
  exact refl x

theorem of_fails {e e' : ε} (hx : x.Fails e) (hy : y.Fails e') : Alike x y := by
  refine ⟨fun a => ?_, iff_of_true ⟨e, hx⟩ ⟨e', hy⟩, fun o => ?_⟩
  · exact iff_of_false (fun h => nomatch hx.symm.trans h) (fun h => nomatch hy.symm.trans h)
  · exact iff_of_false (fun h => nomatch hx.symm.trans h) (fun h => nomatch hy.symm.trans h)

theorem ofExcept {r r' : Except ε α} (h : r.toOption = r'.toOption) : Alike (ofExcept r) (ofExcept r') := by
  match r, r' with
  | .ok a, .ok a' =>
    cases h
    exact refl _
  | .error e, .error e' => exact of_fails (fails_ofExcept.mpr rfl) (fails_ofExcept.mpr rfl)
  | .ok _, .error _ => cases h
  | .error _, .ok _ => cases h

theorem bind {f g : α → Billing ε β} (hx : Alike x y) (hf : ∀ a, Alike (f a) (g a)) :
    Alike (x >>= f) (y >>= g) := by
  refine ⟨fun b => ?_, ?_, fun o => ?_⟩
  · simp only [returns_bind, hx.returns, (hf _).returns]
  · simp only [fails_bind, exists_or, hx.fails]
    rw [exists_comm, exists_comm (α := ε)]
    simp only [exists_and_left, hx.returns, (hf _).fails]
  · simp only [runsOut_bind, hx.runsOut, hx.returns, (hf _).runsOut]

end Alike

end Billing

namespace Run
variable {σ α β : Type} {w w' : World σ} {o : Overflow}

/-- The run is cut short by an operation, and leaves the world `w'`. -/
def Stops (x : Run σ α) (w : World σ) (o : Overflow) (w' : World σ) : Prop := x.result w = (.error o, w')

theorem overflows_iff {x : Run σ α} : x.Overflows w ↔ ∃ o w', x.Stops w o w' := by
  unfold Overflows Stops
  match x.result w with
  | (.ok a, w₁) => simp
  | (.error o, w₁) => simp

theorem stops_pure {a : α} : ¬ (pure a : Run σ α).Stops w o w' := nofun

theorem stops_perform {call : Call} {answer : σ → α × σ} : ¬ (perform call answer).Stops w o w' := nofun

theorem stops_bind {x : Run σ α} {f : α → Run σ β} :
    (x >>= f).Stops w o w' ↔ x.Stops w o w' ∨ ∃ a w₁, x.Ends w a w₁ ∧ (f a).Stops w₁ o w' := by
  unfold Stops Ends
  rw [result_bind]
  match x.result w with
  | (.ok a, w₁) => simp
  | (.error _, w₁) => simp

/-- What comes after the first run does not stop, so that only the first run can. -/
theorem stops_bind_iff {x : Run σ α} {f : α → Run σ β} (hf : ∀ a w o w', ¬ (f a).Stops w o w') :
    (x >>= f).Stops w o w' ↔ x.Stops w o w' := by
  rw [stops_bind]
  exact or_iff_left fun ⟨a, w₁, _, h⟩ => hf a w₁ o w' h

theorem stops_tell {c : Collaborators σ} {n : Notice} : ¬ (tell c n).Stops w o w' := fun h =>
  stops_perform ((stops_bind_iff fun _ _ _ _ => stops_pure).mp h)

theorem stops_tell_then {c : Collaborators σ} {n : Notice} {a : α} :
    ¬ (tell c n >>= fun _ => pure a).Stops w o w' := fun h =>
  stops_tell ((stops_bind_iff fun _ _ _ _ => stops_pure).mp h)

def endsOrStops (σ : Type) : EndsOrStops (Run σ) (World σ) Overflow where
  ends x w a w' := x.Ends w a w'
  stops x w o w' := x.Stops w o w'
  ends_pure := ends_pure
  ends_bind := ends_bind
  stops_pure := stops_pure
  stops_bind := stops_bind

end Run

namespace Task
variable {σ α β : Type} {w w' : World σ} {o : Overflow}

/-- The task is cut short by an operation. -/
def Stops (x : Task σ α) (w : World σ) (o : Overflow) (w' : World σ) : Prop :=
  Run.Stops (ExceptT.run x) w o w'

theorem stops_pure {a : α} : ¬ (pure a : Task σ α).Stops w o w' := Run.stops_pure

theorem stops_throw {e : Failure} : ¬ (throw e : Task σ α).Stops w o w' := Run.stops_pure

theorem stops_bind {x : Task σ α} {f : α → Task σ β} :
    (x >>= f).Stops w o w' ↔ x.Stops w o w' ∨ ∃ a w₁, x.Ends w (.ok a) w₁ ∧ (f a).Stops w₁ o w' := by
  show Run.Stops (ExceptT.run x >>= ExceptT.bindCont f) w o w' ↔ _
  rw [Run.stops_bind]
  refine or_congr_right ⟨?_, fun ⟨a, w₁, hx, hf⟩ => ⟨.ok a, w₁, hx, hf⟩⟩
  rintro ⟨e | a, w₁, hx, hf⟩
  · exact absurd hf Run.stops_pure
  · exact ⟨a, w₁, hx, hf⟩

theorem stops_call {call : Call} {answer : σ → Except Failure α × σ} :
    ¬ (Task.call call answer).Stops w o w' :=
  Run.stops_perform

theorem stops_call_bind {call : Call} {answer : σ → Except Failure α × σ} {f : α → Task σ β} :
    (Task.call call answer >>= f).Stops w o w' ↔
      ∃ a s, answer w.state = (.ok a, s) ∧ (f a).Stops ⟨s, w.calls ++ [call]⟩ o w' := by
  rw [stops_bind, or_iff_right stops_call]
  simp only [ends_call]
  match answer w.state with
  | (.ok a, s) => simp
  | (.error e, s) => simp

theorem stops_provide {call : Call} {answer : σ → Except ProviderFailure α × σ} :
    ¬ (provide call answer).Stops w o w' := by
  show ¬ Run.Stops (Run.perform call answer >>= _) w o w'
  rw [Run.stops_bind]
  rintro (h | ⟨r, _, -, h⟩)
  · exact Run.stops_perform h
  · cases r <;> exact Run.stops_pure h

theorem stops_provide_bind {call : Call} {answer : σ → Except ProviderFailure α × σ} {f : α → Task σ β} :
    (provide call answer >>= f).Stops w o w' ↔
      ∃ a s, answer w.state = (.ok a, s) ∧ (f a).Stops ⟨s, w.calls ++ [call]⟩ o w' := by
  rw [stops_bind, or_iff_right stops_provide]
  simp only [ends_provide]
  match answer w.state with
  | (.ok a, s) => simp [Except.mapError]
  | (.error e, s) => simp [Except.mapError]

theorem stops_compute {x : Billing Failure α} :
    (compute x).Stops w o w' ↔ x.RunsOut o ∧ w' = w := by
  show (x.run, w) = (.error o, w') ↔ _
  simp [Billing.RunsOut, eq_comm]

theorem stops_compute_bind {x : Billing Failure α} {f : α → Task σ β} :
    (compute x >>= f).Stops w o w' ↔
      (x.RunsOut o ∧ w' = w) ∨ ∃ a, x.Returns a ∧ (f a).Stops w o w' := by
  rw [stops_bind, stops_compute]
  simp only [ends_compute, Billing.Returns]
  refine or_congr_right (exists_congr fun a => ?_)
  constructor
  · rintro ⟨_, ⟨hx, rfl⟩, hf⟩
    exact ⟨hx, hf⟩
  · rintro ⟨hx, hf⟩
    exact ⟨w, ⟨hx, rfl⟩, hf⟩

theorem stops_liftM {x : Run σ α} : (liftM x : Task σ α).Stops w o w' ↔ x.Stops w o w' := by
  show Run.Stops (x >>= fun a => pure (Except.ok a)) w o w' ↔ _
  rw [Run.stops_bind]
  refine or_iff_left ?_
  rintro ⟨_, _, -, h⟩
  exact Run.stops_pure h

theorem stops_liftM_bind {x : Run σ α} {f : α → Task σ β} :
    (liftM x >>= f : Task σ β).Stops w o w' ↔
      x.Stops w o w' ∨ ∃ a w₁, x.Ends w a w₁ ∧ (f a).Stops w₁ o w' := by
  rw [stops_bind, stops_liftM]
  refine or_congr_right (exists_congr fun a => exists_congr fun w₁ => and_congr_left fun _ => ?_)
  rw [ends_liftM]
  simp

end Task

end CostJournal
