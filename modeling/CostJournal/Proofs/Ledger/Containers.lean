import CostJournal.Proofs.Authorization.Stages
import CostJournal.Proofs.Ledger.Holdings

/-!
# Journals over many runs

A ledger that keeps its journals (`KeepsJournals`) goes through a history of runs and of changes of
status (`Reachable`). The journals stay in order (`Reachable.inOrder`): every call of a run keeps the
order, and finding or creating a journal does so because it asks for the journals first. So each
authorization of a run finds the only pending journal of its period, or creates the next one, and
uploads to no other (`Reachable.containers`).
-/

namespace CostJournal

variable {σ : Type} {held : σ → Holdings}

/-- The journals that are held before and after only age. -/
def HoldingsAge (held : σ → Holdings) (w w' : World σ) : Prop := (held w.state).Ages (held w'.state)

/-- The order of the journals that are held is kept. -/
def KeepsOrder (held : σ → Holdings) (w w' : World σ) : Prop :=
  (held w.state).InOrder → (held w'.state).InOrder

instance : IsPreorder (World σ) (KeepsOrder held) where
  refl _ h := h
  trans _ _ _ h h' := h' ∘ h

/-- The ledger answers a query for journals with those of the authorization for the period, in any order,
adds a pending journal with an id of its own when it creates one, and otherwise changes no more than the
status of journals, which never becomes pending again. A journal may be created although the answer is
lost. -/
structure KeepsJournals (c : Collaborators σ) (held : σ → Holdings) : Prop where
  answers : ∀ (p : Plan) id s journals, (c.journals (p.journalsQuery id) s).1 = .ok journals →
    journals.Perm ((held s).journalsOf id p.period)
  queried : ∀ query s, (held s).Ages (held (c.journals query s).2)
  created : ∀ n s j, (c.createJournal n s).1 = .ok j → (held s).Adds n j (held (c.createJournal n s).2)
  refused : ∀ n s e, (c.createJournal n s).1 = .error e →
    (held s).Ages (held (c.createJournal n s).2) ∨ ∃ j, (held s).Adds n j (held (c.createJournal n s).2)
  others : CallsLead (HoldingsAge held) c fun _ => True

/-- The states that runs and changes of status lead to from an empty ledger. The other systems may be
others in each run, and may be in any state whenever a status changes. -/
inductive Reachable (held : σ → Holdings) : σ → Prop
  | empty {s : σ} : held s = [] → Reachable held s
  | run {c : Collaborators σ} {p : Plan} {w w' : World σ} {r : Checked (Except Failure Summary)} :
    Reachable held w.state → KeepsJournals c held →
    Run.result (ExceptT.run (Generator.generate c p)) w = (r, w') → Reachable held w'.state
  | change {s s' : σ} : Reachable held s → (held s).Ages (held s') → Reachable held s'

namespace Generator
variable {c : Collaborators σ} {p : Plan} {id : String} {w w' : World σ} {r : Except Failure String}

/-- What finding or creating a journal comes to, in terms of the journals that the ledger holds: with a
pending one it makes one call and uses it, and else it makes two and uses the journal that is added. -/
inductive ContainerOpens (c : Collaborators σ) (held : σ → Holdings) (p : Plan) (id : String)
    (w : World σ) : Except Failure String → World σ → Prop
  | unanswered {e : Failure} {s : σ} : c.journals (p.journalsQuery id) w.state = (.error e, s) →
    ContainerOpens c held p id w (.error e) ⟨s, w.calls ++ [.journals (p.journalsQuery id)]⟩
  | reused {s : σ} {j : Journal} : (held w.state).Ages (held s) →
    j ∈ (held w.state).journalsOf id p.period → j.isPending →
    ContainerOpens c held p id w (.ok j.id) ⟨s, w.calls ++ [.journals (p.journalsQuery id)]⟩
  | refused {s s' : σ} {e : Failure} {n : NewJournal} : (held w.state).Ages (held s) →
    (∀ j ∈ (held w.state).journalsOf id p.period, ¬ j.isPending) →
    n = p.newJournal id (((held w.state).journalsOf id p.period).length + 1) →
    c.createJournal n s = (.error e, s') →
    ContainerOpens c held p id w (.error e)
      ⟨s', w.calls ++ [.journals (p.journalsQuery id), .createJournal n]⟩
  | created {s s' : σ} {j : Journal} {n : NewJournal} : (held w.state).Ages (held s) →
    (∀ j ∈ (held w.state).journalsOf id p.period, ¬ j.isPending) →
    n = p.newJournal id (((held w.state).journalsOf id p.period).length + 1) →
    (held s).Adds n j (held s') →
    ContainerOpens c held p id w (.ok j.id)
      ⟨s', w.calls ++ [.journals (p.journalsQuery id), .createJournal n]⟩

theorem containerOpens_of_journalOpens (hc : KeepsJournals c held) (h : JournalOpens c p id w r w') :
    ContainerOpens c held p id w r w' := by
  have hanswers : ∀ {journals s}, c.journals (p.journalsQuery id) w.state = (.ok journals, s) →
      journals.Perm ((held w.state).journalsOf id p.period) := fun hquery =>
    hc.answers p id w.state _ (by rw [hquery])
  have hages : ∀ {answer s}, c.journals (p.journalsQuery id) w.state = (answer, s) →
      (held w.state).Ages (held s) := fun hquery => by
    simpa only [hquery] using hc.queried (p.journalsQuery id) w.state
  cases h with
  | unanswered hquery => exact .unanswered hquery
  | reused hquery hfind =>
    have hj := (hanswers hquery).mem_iff.mp (List.mem_of_find?_eq_some hfind)
    exact .reused (hages hquery) hj (List.find?_some hfind)
  | refused hquery hfind hcreate =>
    have hperm := hanswers hquery
    refine .refused (hages hquery) (fun j hj => ?_) ?_ hcreate
    · exact List.find?_eq_none.mp hfind j (hperm.mem_iff.mpr hj)
    · rw [hperm.length_eq]
  | created hquery hfind hcreate =>
    have hperm := hanswers hquery
    have hadds := hc.created _ _ _ (congrArg Prod.fst hcreate)
    rw [hcreate] at hadds
    refine .created (hages hquery) (fun j hj => ?_) ?_ hadds
    · exact List.find?_eq_none.mp hfind j (hperm.mem_iff.mpr hj)
    · rw [hperm.length_eq]

/-- The journals are the same in number, and none is pending, also after they aged. -/
theorem inOrder_of_adds {s s' : σ} {j : Journal} (horder : (held w.state).InOrder)
    (hages : (held w.state).Ages (held s))
    (hnone : ∀ j ∈ (held w.state).journalsOf id p.period, ¬ j.isPending)
    (hadds : (held s).Adds (p.newJournal id (((held w.state).journalsOf id p.period).length + 1)) j
      (held s')) : (held s').InOrder := by
  have hjournals := hages.journalsOf id p.period
  refine (horder.ages hages).adds (fun j' hj' hpending => ?_) (hjournals.length_eq ▸ hadds)
  obtain ⟨j, hj, hage⟩ := exists_left_of_mem hjournals hj'
  exact hnone j hj (hage.pending hpending)

theorem ContainerOpens.inOrder (hc : KeepsJournals c held) (h : ContainerOpens c held p id w r w')
    (horder : (held w.state).InOrder) : (held w'.state).InOrder := by
  cases h with
  | unanswered hquery =>
    refine horder.ages ?_
    simpa only [hquery] using hc.queried (p.journalsQuery id) w.state
  | reused hages _ _ => exact horder.ages hages
  | refused hages hnone hn hcreate =>
    subst hn
    have hrefused := hc.refused _ _ _ (by rw [hcreate])
    rw [hcreate] at hrefused
    rcases hrefused with hages' | ⟨j, hadds⟩
    · exact (horder.ages hages).ages hages'
    · exact inOrder_of_adds horder hages hnone hadds
  | created hages hnone hn hadds =>
    subst hn
    exact inOrder_of_adds horder hages hnone hadds

theorem findOrCreateJournal_containerOpens (hc : KeepsJournals c held) (p : Plan) (id : String)
    (w : World σ) :
    ∃ r w', (findOrCreateJournal c p id).Ends w r w' ∧ ContainerOpens c held p id w r w' := by
  obtain ⟨r, w', hends, hopens⟩ := findOrCreateJournal_opens c p id w
  exact ⟨r, w', hends, containerOpens_of_journalOpens hc hopens⟩

theorem findOrCreateJournal_keepsOrder (hc : KeepsJournals c held) (id : String) :
    (findOrCreateJournal c p id).Leads (KeepsOrder held) := by
  intro w horder
  obtain ⟨r, w', hends, hopens⟩ := findOrCreateJournal_containerOpens hc p id w
  have hworld : (Run.result (ExceptT.run (findOrCreateJournal c p id)) w).2 = w' := by rw [hends]
  rw [hworld]
  exact hopens.inOrder hc horder

theorem callsLead_keepsOrder (hc : KeepsJournals c held) : CallsLead (KeepsOrder held) c fun _ => True :=
  hc.others.imp fun _ _ hages horder => horder.ages hages

end Generator

open Generator

theorem Reachable.inOrder {s : σ} (h : Reachable held s) : (held s).InOrder := by
  induction h with
  | empty h => exact h ▸ Holdings.InOrder.nil
  | @run c p w w' r _ hc hresult ih =>
    have hleads : (generate c p).Leads (KeepsOrder held) :=
      generate_leads (callsLead_keepsOrder hc) (findOrCreateJournal_keepsOrder hc)
    have hkept := hleads w ih
    rwa [hresult] at hkept
  | change _ hages ih => exact ih.ages hages

namespace Generator
variable {c : Collaborators σ} {p : Plan} {a : Authorization} {w w' : World σ}

/-- The journals are in order before each authorization. -/
theorem ComesToTurn.inOrder (hc : KeepsJournals c held) (h : ComesToTurn c p w a w')
    (horder : (held w.state).InOrder) : (held w'.state).InOrder := by
  obtain ⟨_, before, _, _, -, -, hturns⟩ := h
  have hlisted : (held (afterListing c p w).state).InOrder :=
    horder.ages (hc.others.authorizations p.authorizationsQuery w)
  have hleads : Run.Leads (KeepsOrder held) (before.mapM (summarize c p)) := by
    refine .mapM (fun a => ?_) before
    exact summarize_leads (callsLead_keepsOrder hc) (findOrCreateJournal_keepsOrder hc a.id)
  exact (Run.ends_mapM.mpr hturns).leads hleads hlisted

end Generator

/-- The text of a query for the journals of an authorization with a vendor's id. -/
def journalsText (id vendor : String) : String :=
  "and(eq(authorization.id," ++ id ++ "),eq(externalIds.vendor," ++ vendor ++ "))"

/-- The ledger's journals that a query asks for. -/
def Holdings.asked (held : Holdings) (query : String) : List Journal :=
  (held.filter fun e => e.2.externalIds.vendor.any fun vendor =>
    ',' ∉ vendor.toList ∧ journalsText e.1 vendor = query).map (·.2)

end CostJournal
