import CostJournal.Proofs.Runs

/-!
# Steps in turn

`InTurn step xs w rs w'` says that the elements of `xs` are gone through one after the other: each
starts in the world that the one before it left, and gives one of `rs`. Folds and maps of runs go so
(`inTurn_of_foldlM`, `ends_mapM`), and what each step tells the operators adds up
(`InTurn.noticesSent`).
-/

namespace CostJournal

/-- The steps over `xs` give `rs` and lead from the first world to the last one. -/
inductive InTurn {σ α ρ : Type} (step : α → World σ → ρ → World σ → Prop) :
    List α → World σ → List ρ → World σ → Prop
  | nil {w : World σ} : InTurn step [] w [] w
  | cons {x : α} {xs : List α} {r : ρ} {rs : List ρ} {w w₁ w' : World σ} :
    step x w r w₁ → InTurn step xs w₁ rs w' → InTurn step (x :: xs) w (r :: rs) w'

namespace Run
variable {σ α β ρ : Type} {w w' : World σ}

/-- A fold of runs goes in turn, if every step from an accumulator with the invariant does and adds what
it gives. -/
theorem inTurn_of_foldlM {step : α → World σ → ρ → World σ → Prop} {f : β → α → Run σ β}
    {add : β → ρ → β} (Inv : β → Prop) {xs : List α} {b b' : β}
    (h : Run.Ends (xs.foldlM f b) w b' w') (hb : Inv b) (hinv : ∀ b r, Inv b → Inv (add b r))
    (hstep : ∀ b x w b' w', Inv b → (f b x).Ends w b' w' → ∃ r, step x w r w' ∧ b' = add b r) :
    ∃ rs, InTurn step xs w rs w' ∧ b' = rs.foldl add b := by
  -- what the first step leaves is again an accumulator with the invariant
  induction xs generalizing b w with
  | nil =>
    obtain ⟨rfl, rfl⟩ := ends_pure.mp h
    exact ⟨[], .nil, rfl⟩
  | cons x xs ih =>
    rw [List.foldlM_cons] at h
    obtain ⟨b₁, w₁, hx, h⟩ := ends_bind.mp h
    obtain ⟨r, hr, rfl⟩ := hstep b x w b₁ w₁ hb hx
    obtain ⟨rs, hrs, rfl⟩ := ih h (hinv b r hb)
    exact ⟨r :: rs, .cons hr hrs, rfl⟩

theorem ends_mapM {f : α → Run σ β} {xs : List α} {ys : List β} :
    Run.Ends (xs.mapM f) w ys w' ↔ InTurn (fun x w y w' => (f x).Ends w y w') xs w ys w' := by
  induction xs generalizing ys w with
  | nil =>
    rw [List.mapM_nil, ends_pure]
    constructor
    · rintro ⟨rfl, rfl⟩
      exact .nil
    · rintro ⟨⟩
      exact ⟨rfl, rfl⟩
  | cons x xs ih =>
    simp only [List.mapM_cons, ends_bind, ends_pure]
    constructor
    · rintro ⟨y, w₁, hy, rest, w₂, hrest, rfl, rfl⟩
      exact .cons hy (ih.mp hrest)
    · rintro (_ | ⟨hy, hrest⟩)
      exact ⟨_, _, hy, _, _, ih.mpr hrest, rfl, rfl⟩

end Run

/-- The notice of a call, if it is one. -/
def Call.notice? : Call → Option Notice
  | .notify n => some n
  | _ => none

/-- The calls between two worlds tell exactly these notices. -/
def NoticesSent {σ : Type} (w w' : World σ) (notices : List Notice) : Prop :=
  ∃ new, w'.calls = w.calls ++ new ∧ new.filterMap Call.notice? = notices

namespace NoticesSent
variable {σ : Type} {w w₁ w' : World σ} {ns ns' : List Notice}

theorem refl (w : World σ) : NoticesSent w w [] := ⟨[], by simp, rfl⟩

theorem append (h : NoticesSent w w₁ ns) (h' : NoticesSent w₁ w' ns') :
    NoticesSent w w' (ns ++ ns') := by
  obtain ⟨new, hcalls, rfl⟩ := h
  obtain ⟨new', hcalls', rfl⟩ := h'
  exact ⟨new ++ new', by rw [hcalls', hcalls, List.append_assoc], List.filterMap_append⟩

theorem of_call (call : Call) (h : w'.calls = w.calls ++ [call]) :
    NoticesSent w w' call.notice?.toList :=
  ⟨[call], h, by cases call <;> rfl⟩

/-- Calls that are no notices tell nothing. -/
theorem of_silent {call : Call} {s : σ} (hcall : call.notice? = none)
    (h : NoticesSent ⟨s, w.calls ++ [call]⟩ w' ns) : NoticesSent w w' ns := by
  have hsilent : NoticesSent w ⟨s, w.calls ++ [call]⟩ call.notice?.toList := of_call call rfl
  rw [hcall] at hsilent
  exact hsilent.append h

theorem of_tell {c : Collaborators σ} {n : Notice} {u : Unit} (h : (Run.tell c n).Ends w u w') :
    NoticesSent w w' [n] := by
  rw [Run.ends_tell.mp h]
  exact of_call (.notify n) rfl

end NoticesSent

/-- The notices of steps in turn are those of the steps, in their order. -/
theorem InTurn.noticesSent {σ α ρ : Type} {step : α → World σ → ρ → World σ → Prop}
    {notices : ρ → List Notice} {xs : List α} {rs : List ρ} {w w' : World σ}
    (hstep : ∀ {x w r w'}, step x w r w' → NoticesSent w w' (notices r)) (h : InTurn step xs w rs w') :
    NoticesSent w w' (rs.flatMap notices) := by
  induction h with
  | nil => exact .refl _
  | cons hx _ ih => exact (hstep hx).append ih

/-- Every result is that of one of the steps. -/
theorem InTurn.exists_of_mem {σ α ρ : Type} {step : α → World σ → ρ → World σ → Prop} {xs : List α}
    {rs : List ρ} {r : ρ} {w w' : World σ} (h : InTurn step xs w rs w') (hr : r ∈ rs) :
    ∃ x ∈ xs, ∃ w₁ w₂, step x w₁ r w₂ := by
  induction h with
  | nil => exact nomatch hr
  | @cons x _ _ _ w w₁ _ hx _ ih =>
    rcases List.mem_cons.mp hr with rfl | hr
    · exact ⟨x, List.mem_cons_self, w, w₁, hx⟩
    · obtain ⟨y, hy, hstep⟩ := ih hr
      exact ⟨y, List.mem_cons_of_mem _ hy, hstep⟩

end CostJournal
