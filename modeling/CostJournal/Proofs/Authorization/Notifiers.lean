import CostJournal.Proofs.Authorization.Serving

/-!
# Notices that do not arrive

A notifier answers from a state of its own, and no other system sees that state
(`Collaborators.notifying`). Then two runs that differ in their notifiers only go alike to the end
(`generate_anyNotifier`): the same calls, the notices among them, and the same summary, whichever
notices arrive.
-/

namespace CostJournal

variable {σ ν α : Type}

/-- Takes notices, and keeps what it needs for that to itself. -/
abbrev Notifier (ν : Type) := Notice → ν → Except Failure Unit × ν

/-- The same answer, with a state beside it that is left alone. -/
def beside (f : σ → α × σ) (s : σ × ν) : α × σ × ν := ((f s.1).1, (f s.1).2, s.2)

def ReportProvider.beside (r : ReportProvider σ) : ReportProvider (σ × ν) where
  costAndUsage q := CostJournal.beside (r.costAndUsage q)
  invoiceSummaries accountId p := CostJournal.beside (r.invoiceSummaries accountId p)

/-- The same systems, whose notices go to `n`. -/
def Collaborators.notifying (c : Collaborators σ) (n : Notifier ν) : Collaborators (σ × ν) where
  authorizations query := beside (c.authorizations query)
  agreements query := beside (c.agreements query)
  journals query := beside (c.journals query)
  createJournal journal := beside (c.createJournal journal)
  upload journalId content filename := beside (c.upload journalId content filename)
  attach journalId attachment := beside (c.attach journalId attachment)
  connect mpaId := beside fun s => ((c.connect mpaId s).1.map .beside, (c.connect mpaId s).2)
  notify notice s := ((n notice s.2).1, s.1, (n notice s.2).2)

/-- All but the notifier are in the same state. -/
def SameButNotifier (s s' : σ × ν) : Prop := s.1 = s'.1

theorem answersAlike_beside (f : σ → α × σ) :
    AnswersAlike (SameButNotifier (ν := ν)) (beside f) (beside f) := by
  rintro ⟨s, v⟩ ⟨_, v'⟩ rfl
  exact ⟨rfl, rfl⟩

theorem ReportProvider.alike_beside (r : ReportProvider σ) :
    ReportProvider.Alike (SameButNotifier (ν := ν)) r.beside where
  costAndUsage _ := answersAlike_beside _
  invoiceSummaries _ _ := answersAlike_beside _

/-- Systems with two notifiers serve every authorization alike. -/
theorem servesAlike_notifying (c : Collaborators σ) (n n' : Notifier ν) (p : Plan) (id : String) :
    ServesAlike SameButNotifier p id (fun _ => True) (c.notifying n) (c.notifying n') where
  agreements := answersAlike_beside _
  journals := answersAlike_beside _
  createJournal _ := answersAlike_beside _
  upload _ _ _ _ := answersAlike_beside _
  attach _ _ _ := answersAlike_beside _
  connect _ := answersAlike_beside _
  provider mpaId s provider h := by
    obtain ⟨r, -, rfl⟩ := map_eq_ok.mp h
    exact r.alike_beside
  notify _ _ _ h := h
  found _ _ _ _ _ := trivial
  created _ _ _ _ := trivial

namespace Generator

theorem generate_alike_notifying (c : Collaborators σ) (n n' : Notifier ν) (p : Plan) :
    (generate (c.notifying n) p).Alike SameButNotifier (generate (c.notifying n') p) :=
  (Task.Alike.call (answersAlike_beside _)).bind fun listed _ _ _ =>
    (Task.Alike.liftM (.mapM (fun a => summarize_alike (servesAlike_notifying c n n' p a.id))
      (listed.getD []))).bind fun _ _ _ _ => .pure _

/-- Whether notices arrive makes no difference: with either notifier a run comes to the same end, makes
the same calls with the same contents in the same order, also those to the notifier, and leaves all
other systems in the same state. -/
theorem generate_anyNotifier (c : Collaborators σ) (n n' : Notifier ν) (p : Plan) (s : σ) (v v' : ν)
    (calls : List Call) :
    ∃ r new t u u',
      Run.result (ExceptT.run (generate (c.notifying n) p)) ⟨(s, v), calls⟩ =
        (r, ⟨(t, u), calls ++ new⟩) ∧
      Run.result (ExceptT.run (generate (c.notifying n') p)) ⟨(s, v'), calls⟩ =
        (r, ⟨(t, u'), calls ++ new⟩) := by
  obtain ⟨r, new, ⟨t, u⟩, ⟨_, u'⟩, rfl, hn, hn'⟩ :=
    generate_alike_notifying c n n' p ⟨(s, v), calls⟩ ⟨(s, v'), calls⟩ rfl
  exact ⟨r, new, t, u, u', hn, hn'⟩

end Generator

end CostJournal
