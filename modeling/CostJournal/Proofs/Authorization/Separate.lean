import CostJournal.Proofs.Authorization.Serving
import Mathlib.Data.List.Forall2

/-!
# Authorizations that do not interfere

The state of systems that keep authorizations apart (`Separate`) has a part for each authorization:
what is asked for one is answered from its part and changes that part alone. In a run over several
authorizations, each then has the outcome, the calls and in the end the part that it has in the run
that lists it alone (`generate_asAlone`). The step is `summarize_asAlone`, for one authorization from
two worlds that agree on its part; the run is by induction over the list, whose earlier authorizations
leave the part of a later one as it was at the start.
-/

namespace CostJournal

variable {σ τ α : Type} {part : String → σ → τ} {id : String}

/-- The answer depends on the part of the state that is `id`'s alone, and changes that part alone. -/
structure Confined (part : String → σ → τ) (id : String) (f : σ → α × σ) : Prop where
  answer : ∀ s s', part id s = part id s' → (f s).1 = (f s').1
  own : ∀ s s', part id s = part id s' → part id (f s).2 = part id (f s').2
  others : ∀ s other, other ≠ id → part other (f s).2 = part other s

/-- The answer does not depend on the state, and changes nobody's part. -/
structure Ambient (part : String → σ → τ) (f : σ → α × σ) : Prop where
  answer : ∀ s s', (f s).1 = (f s').1
  parts : ∀ s id, part id (f s).2 = part id s

/-- Systems that keep authorizations apart. A journal belongs to the authorization for which it was
found or created, which `owns` it; reports and notices are nobody's. -/
structure Separate (c : Collaborators σ) (p : Plan) (part : String → σ → τ)
    (owns : String → String → Prop) : Prop where
  agreements : ∀ id, Confined part id (c.agreements (p.agreementsQuery id))
  journals : ∀ id, Confined part id (c.journals (p.journalsQuery id))
  createJournal : ∀ n, Confined part n.authorizationId (c.createJournal n)
  upload : ∀ id journalId content filename, owns id journalId →
    Confined part id (c.upload journalId content filename)
  attach : ∀ id journalId attachment, owns id journalId → Confined part id (c.attach journalId attachment)
  connect : ∀ mpaId, Ambient part (c.connect mpaId)
  costAndUsage : ∀ mpaId s provider q, (c.connect mpaId s).1 = .ok provider →
    Ambient part (provider.costAndUsage q)
  invoiceSummaries : ∀ mpaId s provider accountId period, (c.connect mpaId s).1 = .ok provider →
    Ambient part (provider.invoiceSummaries accountId period)
  notify : ∀ n s id, part id (c.notify n s).2 = part id s
  found : ∀ id s journals, (c.journals (p.journalsQuery id) s).1 = .ok journals →
    ∀ j ∈ journals, owns id j.id
  created : ∀ n s j, (c.createJournal n s).1 = .ok j → owns n.authorizationId j.id

/-- The states agree on the part of `id`, and every other part of the first one is as it was before. -/
def SameShare (part : String → σ → τ) (id : String) (before : String → τ) (s s' : σ) : Prop :=
  part id s = part id s' ∧ ∀ other, other ≠ id → part other s = before other

theorem Confined.alike {before : String → τ} {f : σ → α × σ} (h : Confined part id f) :
    AnswersAlike (SameShare part id before) f f := by
  intro s s' hs
  refine ⟨h.answer s s' hs.1, h.own s s' hs.1, fun other hne => ?_⟩
  rw [h.others s other hne, hs.2 other hne]

theorem Ambient.alike {before : String → τ} {f : σ → α × σ} (h : Ambient part f) :
    AnswersAlike (SameShare part id before) f f := by
  intro s s' hs
  refine ⟨h.answer s s', ?_, fun other hne => ?_⟩
  · rw [h.parts, h.parts, hs.1]
  · rw [h.parts, hs.2 other hne]

variable {c : Collaborators σ} {p : Plan} {owns : String → String → Prop}

/-- Systems that keep authorizations apart serve each of them from its part. -/
theorem Separate.servesAlike (h : Separate c p part owns) (id : String) (before : String → τ) :
    ServesAlike (SameShare part id before) p id (owns id) c c where
  agreements := (h.agreements id).alike
  journals := (h.journals id).alike
  createJournal n := (h.createJournal (p.newJournal id n)).alike
  upload journalId content filename howns := (h.upload id journalId content filename howns).alike
  attach journalId attachment howns := (h.attach id journalId attachment howns).alike
  connect mpaId := (h.connect mpaId).alike
  provider mpaId s provider hconnect :=
    ⟨fun q => (h.costAndUsage mpaId s provider q hconnect).alike,
      fun accountId period => (h.invoiceSummaries mpaId s provider accountId period hconnect).alike⟩
  notify n s s' hs :=
    ⟨by rw [h.notify, h.notify, hs.1], fun other hne => by rw [h.notify, hs.2 other hne]⟩
  found := h.found id
  created n := h.created (p.newJournal id n)

/-- The same systems, which list these authorizations. -/
def Collaborators.listing (c : Collaborators σ) (authorizations : List Authorization) : Collaborators σ :=
  { c with authorizations := fun query s => (.ok (some authorizations), (c.authorizations query s).2) }

namespace Generator
variable {w w' u : World σ}

/-- One authorization from two worlds that agree on its part: the outcome and the calls are the same,
and only its part changes. -/
theorem summarize_asAlone (h : Separate c p part owns) {a : Authorization} {y : AuthorizationSummary}
    (hpart : part a.id w.state = part a.id u.state) (hends : (summarize c p a).Ends w y w') :
    ∃ new u', w'.calls = w.calls ++ new ∧ u'.calls = u.calls ++ new ∧ (summarize c p a).Ends u y u' ∧
      part a.id w'.state = part a.id u'.state ∧
      ∀ other, other ≠ a.id → part other w'.state = part other w.state := by
  have halike := summarize_alike (h.servesAlike a.id fun other => part other w.state)
  obtain ⟨r, new, s, s', hs, hw, hu⟩ := halike w u ⟨hpart, fun _ _ => rfl⟩
  obtain ⟨rfl, rfl⟩ := Prod.mk.inj (hw.symm.trans hends)
  exact ⟨new, _, rfl, rfl, hu, hs.1, hs.2⟩

theorem summarize_authorizationId {a : Authorization} {y : AuthorizationSummary}
    (h : (summarize c p a).Ends w y w') : y.authorizationId = a.id := by
  obtain ⟨r, w₁, -, h⟩ := Run.ends_bind.mp h
  match r with
  | .ok _ => rw [(Run.ends_pure.mp h).1]
  | .error _ =>
    obtain ⟨_, _, -, h⟩ := Run.ends_bind.mp h
    rw [(Run.ends_pure.mp h).1]

/-- Authorizations in turn from `w`, each compared with itself from `u`, which agrees with `w` on their
parts: the parts of all others stay. -/
theorem inTurn_summarize_asAlone (h : Separate c p part owns) {as : List Authorization}
    {summaries : List AuthorizationSummary} (hpart : ∀ a ∈ as, part a.id w.state = part a.id u.state)
    (hdistinct : (as.map (·.id)).Nodup)
    (hturns : InTurn (fun a w y w' => (summarize c p a).Ends w y w') as w summaries w') :
    (∀ id ∉ as.map (·.id), part id w'.state = part id w.state) ∧
      ∃ turns : List (AuthorizationSummary × List Call), summaries = turns.map (·.1) ∧
        w'.calls = w.calls ++ turns.flatMap (·.2) ∧
        List.Forall₂ (fun a t => ∃ u', (summarize c p a).Ends u t.1 u' ∧ u'.calls = u.calls ++ t.2 ∧
          part a.id u'.state = part a.id w'.state) as turns := by
  induction hturns with
  | nil => exact ⟨fun _ _ => rfl, [], rfl, by simp, .nil⟩
  | @cons a as y summaries w w₁ w' hends _ ih =>
    obtain ⟨ha, has⟩ := List.forall_mem_cons.mp hpart
    obtain ⟨hnew, hdistinct⟩ := List.nodup_cons.mp hdistinct
    obtain ⟨new, u', hcalls, hcalls', halone, hown, hothers⟩ := summarize_asAlone h ha hends
    -- the parts of the later authorizations are still as at the start
    have hlater : ∀ b ∈ as, part b.id w₁.state = part b.id u.state := by
      intro b hb
      have hne : b.id ≠ a.id := fun heq => hnew (List.mem_map.mpr ⟨b, hb, heq⟩)
      rw [hothers b.id hne, has b hb]
    obtain ⟨hstay, turns, rfl, hrest, hturns⟩ := ih hlater hdistinct
    refine ⟨fun id hid => ?_, (y, new) :: turns, rfl, ?_, .cons ⟨u', halone, hcalls', ?_⟩ hturns⟩
    · obtain ⟨hne, hid⟩ := not_or.mp (List.mem_cons.not.mp hid)
      rw [hstay id hid, hothers id hne]
    · rw [hrest, hcalls, List.flatMap_cons, List.append_assoc]
    · rw [hstay a.id hnew, hown]

/-- The world once the authorizations are listed. -/
def afterListing (c : Collaborators σ) (p : Plan) (w : World σ) : World σ :=
  ⟨(c.authorizations p.authorizationsQuery w.state).2, w.calls ++ [.authorizations p.authorizationsQuery]⟩

/-- A run fails when the authorizations cannot be listed, and else goes over them in turn. -/
theorem generate_ends {r : Except Failure Summary} :
    (generate c p).Ends w r w' ↔
      (∃ e, (c.authorizations p.authorizationsQuery w.state).1 = .error e ∧ r = .error e ∧
        w' = afterListing c p w) ∨
      ∃ listed summaries, (c.authorizations p.authorizationsQuery w.state).1 = .ok listed ∧
        InTurn (fun a w y w' => (summarize c p a).Ends w y w') (listed.getD []) (afterListing c p w)
          summaries w' ∧ r = .ok ⟨p.period, summaries⟩ := by
  unfold generate
  constructor
  · intro h
    rcases Task.ends_call_bind.mp h with ⟨e, state, hlist, rfl, rfl⟩ | ⟨listed, state, hlist, h⟩
    · exact .inl ⟨e, by rw [hlist], rfl, by rw [afterListing, hlist]⟩
    · obtain ⟨summaries, w₁, hmap, h⟩ := Task.ends_liftM_bind.mp h
      obtain ⟨rfl, rfl⟩ := Task.ends_pure.mp h
      rw [afterListing, hlist]
      exact .inr ⟨listed, summaries, rfl, Run.ends_mapM.mp hmap, rfl⟩
  · rintro (⟨e, hlist, rfl, rfl⟩ | ⟨listed, summaries, hlist, hturns, rfl⟩)
    · exact Task.ends_call_bind.mpr (.inl ⟨e, _, Prod.ext hlist rfl, rfl, rfl⟩)
    · refine Task.ends_call_bind.mpr (.inr ⟨listed, _, Prod.ext hlist rfl, ?_⟩)
      exact Task.ends_liftM_bind.mpr
        ⟨summaries, w', Run.ends_mapM.mpr hturns, Task.ends_pure.mpr ⟨rfl, rfl⟩⟩

/-- The outcome and the calls `t` of the authorization `a` in a run from `w`, and its part of the state
`after` at the end, are those of the run that lists it alone. -/
structure AsAlone (c : Collaborators σ) (p : Plan) (part : String → σ → τ) (w : World σ) (after : σ)
    (a : Authorization) (t : AuthorizationSummary × List Call) : Prop where
  authorizationId : t.1.authorizationId = a.id
  alone : ∃ u, (generate (c.listing [a]) p).Ends w (.ok ⟨p.period, [t.1]⟩) u ∧
    u.calls = w.calls ++ .authorizations p.authorizationsQuery :: t.2 ∧ part a.id u.state = part a.id after

/-- Unless decimals cut it short, a run over systems that keep authorizations apart ends. It fails
exactly when they cannot be listed; otherwise it has one summary for each, in their order, and each
authorization is as in the run that lists it alone. -/
theorem generate_asAlone (h : Separate c p part owns)
    (hdistinct : ∀ as, (c.authorizations p.authorizationsQuery w.state).1 = .ok (some as) →
      (as.map (·.id)).Nodup)
    (hdecimals : ¬ Run.Overflows (ExceptT.run (generate c p)) w) :
    ∃ r w', (generate c p).Ends w r w' ∧
      ((∃ e, r = .error e) ↔ ∃ e, (c.authorizations p.authorizationsQuery w.state).1 = .error e) ∧
      ∀ listed, (c.authorizations p.authorizationsQuery w.state).1 = .ok listed →
        ∃ turns : List (AuthorizationSummary × List Call), r = .ok ⟨p.period, turns.map (·.1)⟩ ∧
          w'.calls = w.calls ++ .authorizations p.authorizationsQuery :: turns.flatMap (·.2) ∧
          List.Forall₂ (AsAlone c p part w w'.state) (listed.getD []) turns := by
  obtain ⟨r, w', hends⟩ := Run.ends_of_not_overflows hdecimals
  refine ⟨r, w', hends, ?_⟩
  rcases generate_ends.mp hends with ⟨e, he, rfl, -⟩ | ⟨listed, summaries, hlisted, hturns, rfl⟩
  · refine ⟨iff_of_true ⟨e, rfl⟩ ⟨e, he⟩, fun listed hlisted => ?_⟩
    cases he.symm.trans hlisted
  · refine ⟨iff_of_false (by rintro ⟨_, ⟨⟩⟩) (by rintro ⟨e, he⟩; cases hlisted.symm.trans he), ?_⟩
    intro _ hlisted'
    cases hlisted.symm.trans hlisted'
    have hnodup : ((listed.getD []).map (·.id)).Nodup := by
      match listed with
      | none => exact List.nodup_nil
      | some as => exact hdistinct as hlisted
    obtain ⟨-, turns, rfl, hcalls, halone⟩ := inTurn_summarize_asAlone h (fun _ _ => rfl) hnodup hturns
    refine ⟨turns, rfl, ?_, halone.imp fun a t ⟨u, hends, hnew, hpart⟩ => ⟨?_, u, ?_, ?_, hpart⟩⟩
    · rw [hcalls, afterListing, List.append_assoc]
      rfl
    · exact summarize_authorizationId hends
    · exact generate_ends.mpr (.inr ⟨some [a], [t.1], rfl, .cons hends .nil, rfl⟩)
    · rw [hnew, afterListing, List.append_assoc]
      rfl

end Generator

/-- The query for the journals of an authorization names no other one. -/
theorem Plan.journalsQuery_inj {p : Plan} {id id' : String} :
    p.journalsQuery id = p.journalsQuery id' ↔ id = id' := by
  unfold Plan.journalsQuery
  rw [String.append_left_inj, String.append_left_inj, String.append_left_inj, String.append_right_inj]

/-- What a ledger holds of one authorization: the names of its journals and the uploaded texts. -/
structure Shelf where
  names : List String := []
  uploads : List String := []

/-- The journals of a shelf have the id of their authorization. -/
def Shelf.journals (s : Shelf) (id : String) : List Journal := s.names.map fun name => ⟨id, some name, .draft, {}⟩

theorem Ambient.confined {f : σ → α × σ} (h : Ambient part f) : Confined part id f where
  answer s s' _ := h.answer s s'
  own s s' hs := by rw [h.parts, h.parts, hs]
  others s other _ := h.parts s other

/-- A change of one shelf. -/
theorem confined_update (answer : α) (f : Shelf → Shelf) :
    Confined (fun id s => s id) id (fun s : String → Shelf => (answer, Function.update s id (f (s id)))) where
  answer _ _ _ := rfl
  own s s' hs := by
    show Function.update s id (f (s id)) id = Function.update s' id (f (s' id)) id
    rw [Function.update_self, Function.update_self, show s id = s' id from hs]
  others s other hne := Function.update_of_ne hne _ _

/-- Systems with a shelf for each authorization. The agreements of `AUT-1` cannot be read; `AUT-2` has one
agreement, and every query for costs is answered with one service. -/
def Collaborators.shelving : Collaborators (String → Shelf) where
  authorizations _ s := (.ok (some [⟨"AUT-1", none, "USD", {}, none⟩, ⟨"AUT-2", none, "USD", {}, none⟩]), s)
  agreements q s :=
    if q = Plan.standard.agreementsQuery "AUT-1" then (.error (.commerce "timeout"), s)
    else (.ok [.ofSubscriptions "123456789012" [(.active, "210987654321", ["AWS Other services"])]], s)
  journals q s :=
    (.ok ((["AUT-1", "AUT-2"].filter (Plan.standard.journalsQuery · = q)).flatMap fun id =>
      (s id).journals id), s)
  createJournal n s :=
    (.ok ⟨n.authorizationId, some n.name, .draft, n.externalIds⟩,
      Function.update s n.authorizationId
        { s n.authorizationId with names := (s n.authorizationId).names ++ [n.name] })
  upload journalId content _ s :=
    (.ok (), Function.update s journalId { s journalId with uploads := (s journalId).uploads ++ [content] })
  attach journalId _ s := (.ok ("JOA-" ++ journalId), s)
  connect _ s :=
    (.ok ⟨fun _ s => (.ok (.ofGroups [.unblended "Usage" "Amazon EC2" "100"]), s), fun _ _ s => (.ok [], s)⟩, s)
  notify _ s := (.ok (), s)

theorem separate_shelving :
    Separate .shelving .standard (fun id (s : String → Shelf) => s id) (fun id journalId => journalId = id) where
  agreements id := by
    refine Ambient.confined ⟨fun s s' => ?_, fun s _ => ?_⟩ <;> simp only [Collaborators.shelving] <;> split <;> rfl
  journals id := by
    refine ⟨fun s s' hs => ?_, fun s s' hs => hs, fun s _ _ => rfl⟩
    refine congrArg Except.ok (List.flatMap_congr fun id' hid' => ?_)
    obtain rfl := Plan.journalsQuery_inj.mp (of_decide_eq_true (List.mem_filter.mp hid').2)
    rw [show s id' = s' id' from hs]
  createJournal n := confined_update _ fun shelf => { shelf with names := shelf.names ++ [n.name] }
  upload id journalId content filename := by
    rintro rfl
    exact confined_update _ fun shelf => { shelf with uploads := shelf.uploads ++ [content] }
  attach id journalId attachment _ := Ambient.confined ⟨fun _ _ => rfl, fun _ _ => rfl⟩
  connect mpaId := ⟨fun _ _ => rfl, fun _ _ => rfl⟩
  costAndUsage mpaId s provider q h := by
    cases h
    exact ⟨fun _ _ => rfl, fun _ _ => rfl⟩
  invoiceSummaries mpaId s provider accountId period h := by
    cases h
    exact ⟨fun _ _ => rfl, fun _ _ => rfl⟩
  notify _ _ _ := rfl
  found id s journals h j hj := by
    cases h
    obtain ⟨id', hid', hmem⟩ := List.mem_flatMap.mp hj
    obtain ⟨_, -, rfl⟩ := List.mem_map.mp hmem
    exact Plan.journalsQuery_inj.mp (of_decide_eq_true (List.mem_filter.mp hid').2)
  created n s j h := by
    cases h
    rfl

namespace Generator

/-- The first authorization fails, and the second has the outcome and the calls that it has alone. -/
theorem generate_asAlone_shelving :
    Separate .shelving .standard (fun id (s : String → Shelf) => s id) (fun id journalId => journalId = id) ∧
      (∀ as, (Collaborators.shelving.authorizations Plan.standard.authorizationsQuery fun _ => {}).1 =
        .ok (some as) → (as.map (·.id)).Nodup) ∧
      ¬ Run.Overflows (ExceptT.run (generate .shelving .standard)) ⟨fun _ => {}, []⟩ ∧
      ∃ r w', (generate .shelving .standard).Ends ⟨fun _ => {}, []⟩ r w' ∧
        r = .ok ⟨Plan.standard.period, [⟨"AUT-1", .failed "Commerce API error: timeout"⟩,
          ⟨"AUT-2", .uploaded "AUT-2" 2 0⟩]⟩ ∧
        ∃ turns : List (AuthorizationSummary × List Call),
          r = .ok ⟨Plan.standard.period, turns.map (·.1)⟩ ∧
          w'.calls = [] ++ .authorizations Plan.standard.authorizationsQuery :: turns.flatMap (·.2) ∧
          List.Forall₂ (AsAlone .shelving .standard (fun id s => s id) ⟨fun _ => {}, []⟩ w'.state)
            [⟨"AUT-1", none, "USD", {}, none⟩, ⟨"AUT-2", none, "USD", {}, none⟩] turns := by
  have hdistinct : ∀ as, (Collaborators.shelving.authorizations Plan.standard.authorizationsQuery
      fun _ => {}).1 = .ok (some as) → (as.map (·.id)).Nodup := by
    rintro _ ⟨⟩
    decide
  have hvalue : (Run.value? (ExceptT.run (generate .shelving .standard)) ⟨fun _ => {}, []⟩).map (·.1) =
      some (.ok ⟨Plan.standard.period, [⟨"AUT-1", .failed "Commerce API error: timeout"⟩,
        ⟨"AUT-2", .uploaded "AUT-2" 2 0⟩]⟩) := by
    decide +kernel
  have hdecimals : ¬ Run.Overflows (ExceptT.run (generate .shelving .standard)) ⟨fun _ => {}, []⟩ := by
    decide +kernel
  obtain ⟨r, w', hends, -, hlisted⟩ := generate_asAlone separate_shelving hdistinct hdecimals
  obtain ⟨turns, hr, hcalls, hturns⟩ := hlisted _ rfl
  rw [Run.value?_eq_some.mpr hends] at hvalue
  exact ⟨separate_shelving, hdistinct, hdecimals, r, w', hends, Option.some.inj hvalue, turns, hr, hcalls,
    hturns⟩

end Generator

end CostJournal
