import LoopSurvey.Proofs.Session.Callees
/-!
# What a session refers to

The active result, the order of the targets and the history are lists of identifiers beside the outline. What is
presented and what is put in order is looked up in the outline first, so the nodes of the result
(`Moves.mem_ids_of_mem_results`) and the targets in order (`Moves.mem_ids_of_mem_targetOrder`) are nodes of it,
whatever has been done. A node that is left for a callee goes on the history after a look at the outline as well,
but the node viewed last is taken up as the tables have it (`history_take`). So the history leads to a node that is
not there just where the tables name such a one as viewed last (`refersToNodes_proceed`).
-/

namespace LoopSurvey

namespace Session

variable {s s' : Session}

/-! ## The active result and the targets -/

theorem Move.mem_ids_of_mem_results (h : Move s s') (hs : ∀ id ∈ s.results.nodes, id ∈ s.outline.ids) :
    ∀ id ∈ s'.results.nodes, id ∈ s'.outline.ids := by
  rw [← h.sameUnedited.ids]
  cases h with
  | clear => exact fun id hid => nomatch hid
  | advance =>
    dsimp only
    rw [nodes_advance]
    exact hs
  | retreat =>
    obtain ⟨cursor, he⟩ := s.results.exists_retreat_eq
    dsimp only
    rw [he]
    exact hs
  | present keyword hits =>
    rcases s.present_cases keyword (s.ancestorsOf hits) hits with ⟨-, he⟩ | ⟨-, he⟩
    · rw [presentAll, he]
      exact hs
    · intro id hid
      rw [presentAll, he] at hid
      exact Outline.contains_iff.1 (List.mem_filter.1 (Outline.mem_sortByLine.1 hid)).2
  | visit id =>
    obtain ⟨history, he⟩ := s.visit_eq id
    rw [he]
    exact hs
  | _ => exact hs

/-- The nodes of the result stay nodes of the outline. -/
theorem Moves.mem_ids_of_mem_results (h : Moves s s') (hs : ∀ id ∈ s.results.nodes, id ∈ s.outline.ids) :
    ∀ id ∈ s'.results.nodes, id ∈ s'.outline.ids :=
  h.keeps (P := fun t => ∀ id ∈ t.results.nodes, id ∈ t.outline.ids) Move.mem_ids_of_mem_results hs

theorem Move.mem_ids_of_mem_targetOrder (h : Move s s') (hs : ∀ id ∈ s.targetOrder, id ∈ s.outline.ids) :
    ∀ id ∈ s'.targetOrder, id ∈ s'.outline.ids := by
  rw [← h.sameUnedited.ids]
  rcases h.targetOrder with he | rfl
  · rw [he]
    exact hs
  · exact fun id hid => Outline.contains_iff.1 (List.mem_filter.1 (Outline.mem_sortByLine.1 hid)).2

/-- The targets in order stay nodes of the outline. -/
theorem Moves.mem_ids_of_mem_targetOrder (h : Moves s s') (hs : ∀ id ∈ s.targetOrder, id ∈ s.outline.ids) :
    ∀ id ∈ s'.targetOrder, id ∈ s'.outline.ids :=
  h.keeps (P := fun t => ∀ id ∈ t.targetOrder, id ∈ t.outline.ids) Move.mem_ids_of_mem_targetOrder hs

/-! ## The history -/

/-- What a step may put on the history: a node of the outline, or the node viewed last as the tables have it. -/
def Recalls (s : Session) (id : NodeId) : Prop := id ∈ s.outline.ids ∨ s.tables.lastViewed = some id

/-- Neither the identifiers of the outline nor the tables ever change. -/
theorem Moves.recalls_iff (h : Moves s s') {id : NodeId} : s'.Recalls id ↔ s.Recalls id := by
  rw [Recalls, Recalls, h.sameUnedited.ids, h.tables]

/-- The history after a step is that before, or has one more node that may be put on it. -/
def Pushes (s : Session) (history : History) : Prop :=
  history = s.history ∨ ∃ id, s.Recalls id ∧ history = s.history.push id

theorem history_searchAnew (s : Session) (keyword : String) (scope : SearchScope) :
    (s.searchAnew keyword scope).1.history = s.history := by
  rw [searchAnew_eq, history_presentAll]
  rfl

theorem history_search (s : Session) (keyword : String) (scope : SearchScope) :
    (s.search keyword scope).1.history = s.history := by
  rcases s.search_cases keyword scope with ⟨-, he⟩ | ⟨-, -, -, node, he⟩ | ⟨-, -, he⟩ <;> rw [he]
  · rfl
  · exact s.history_searchAnew _ scope

theorem history_changeScope (s : Session) (keyword : String) (scope : SearchScope) :
    (s.changeScope keyword scope).1.history = s.history := by
  rcases s.changeScope_cases keyword scope with he | he <;> rw [he]
  exact s.clearResults.1.history_search keyword scope

theorem history_calleeChoice (s : Session) (id : NodeId) : (s.calleeChoice id).1.history = s.history := by
  rcases s.calleeChoice_cases id with he | he <;> rw [he]
  rfl

theorem history_jumpToTargets (s : Session) : s.jumpToTargets.1.history = s.history := by
  rcases s.jumpToTargets_cases with he | he <;> rw [he]
  exact history_presentAll "" _

theorem history_jumpTo (s : Session) (ids : List NodeId) : (s.jumpTo ids).1.history = s.history := by
  rcases s.jumpTo_cases ids with he | he <;> rw [he]
  exact history_presentAll "" _

/-- A visit is remembered if the node is in the outline. -/
theorem pushes_jumpToCandidates (s : Session) (id : NodeId) (candidates : List NodeId) :
    s.Pushes (s.jumpToCandidates id candidates).1.history := by
  rw [jumpToCandidates, history_presentAll, visit]
  split
  · next hid => exact Or.inr ⟨id, Or.inl (Outline.contains_iff.1 hid), rfl⟩
  · exact Or.inl rfl

theorem pushes_jumpToCallee (s : Session) (id : NodeId) : s.Pushes (s.jumpToCallee id).1.history := by
  rcases s.jumpToCallee_cases id with ⟨callee, candidates, -, he⟩ | ⟨-, he⟩
  · rw [he]
    rcases s.clearResults.1.pushes_jumpToCandidates id candidates with hsame | ⟨id', hid', hpush⟩
    · exact Or.inl hsame
    · exact Or.inr ⟨id', (Moves.recalls_iff (.single .clear)).1 hid', hpush⟩
  · rw [he]
    exact Or.inl (s.history_calleeChoice id)

/-- The node viewed last is remembered without a look at the outline. -/
theorem history_makeReady (s : Session) :
    s.makeReady.1.history = s.tables.lastViewed.elim s.history s.history.push := by
  unfold makeReady
  dsimp only [orderTargets]
  split
  · next hlast => rw [hlast]; rfl
  · next id hlast => rw [hlast]; rfl

theorem pushes_makeReady (s : Session) : s.Pushes s.makeReady.1.history := by
  rw [history_makeReady]
  cases hlast : s.tables.lastViewed with
  | none => exact Or.inl rfl
  | some id => exact Or.inr ⟨id, Or.inr hlast, rfl⟩

theorem history_edit (s : Session) (e : Edit) : (s.operate (.edit e)).history = s.history := by
  rcases s.operate_edit_cases e with he | ⟨affected, he⟩
  · rw [he]
  · rw [he]
    rfl

/-- Unless a node is put on it as it is, the history gets a node that may be put on it, or none. -/
theorem history_take (s : Session) {step : Step} (h : ∀ id, step ≠ .operate (.remember id)) :
    s.Pushes (s.take step).history := by
  cases step with
  | confirm node candidates => exact s.pushes_jumpToCandidates node candidates
  | operate op =>
    cases op with
    | remember node => exact absurd rfl (h node)
    | search keyword scope => exact Or.inl (s.history_search keyword scope)
    | changeScope keyword scope => exact Or.inl (s.history_changeScope keyword scope)
    | calleeChoice node => exact Or.inl (s.history_calleeChoice node)
    | jumpToCallee node => exact s.pushes_jumpToCallee node
    | makeReady => exact s.pushes_makeReady
    | jumpToTargets => exact Or.inl s.history_jumpToTargets
    | jumpTo nodes => exact Or.inl (s.history_jumpTo nodes)
    | edit e => exact Or.inl (s.history_edit e)
    | clearResults | next | previous | expandAll | collapseAll | expandLoops => exact Or.inl rfl

theorem Pushes.forall_mem {history : History} (h : s.Pushes history) (hs : ∀ id ∈ s.history.entries, s.Recalls id) :
    ∀ id ∈ history.entries, s.Recalls id := by
  rcases h with rfl | ⟨last, hlast, rfl⟩
  · exact hs
  · intro id hid
    rcases List.mem_cons.1 (List.mem_of_mem_take hid) with rfl | hid
    · exact hlast
    · exact hs id hid

/-- What is on the history has been found in the outline, or in the tables as the node viewed last. -/
theorem recalls_proceed {steps : List Step} (hsteps : ∀ id, .operate (.remember id) ∉ steps)
    (hs : ∀ id ∈ s.history.entries, s.Recalls id) : ∀ id ∈ (s.proceed steps).history.entries, s.Recalls id := by
  induction steps generalizing s with
  | nil => exact hs
  | cons step steps ih =>
    have hrecalls : ∀ {id}, (s.take step).Recalls id ↔ s.Recalls id := (s.moves_take step).recalls_iff
    have hfirst : ∀ id, step ≠ .operate (.remember id) := fun id he => hsteps id (he ▸ List.mem_cons_self)
    have hlater : ∀ id, .operate (.remember id) ∉ steps := fun id hid => hsteps id (List.mem_cons_of_mem _ hid)
    intro id hid
    refine hrecalls.1 (ih hlater (fun id' hid' => ?_) id hid)
    exact hrecalls.2 ((s.history_take hfirst).forall_mem hs id' hid')

/-! ## All references -/

/-- All that a session refers to is in its outline. -/
structure RefersToNodes (s : Session) : Prop where
  results : ∀ id ∈ s.results.nodes, id ∈ s.outline.ids
  targets : ∀ id ∈ s.targetOrder, id ∈ s.outline.ids
  history : ∀ id ∈ s.history.entries, id ∈ s.outline.ids

/-- The node to go back to is in the outline, if there is one. -/
theorem RefersToNodes.mem_ids_of_backTo? (h : s.RefersToNodes) {id : NodeId} (hid : s.backTo? = some id) :
    id ∈ s.outline.ids :=
  h.history id (List.mem_of_mem_head? hid)

/-- Made ready, a session goes back to the node viewed last, wherever that is. -/
theorem backTo?_makeReady {id : NodeId} (h : s.tables.lastViewed = some id) : s.makeReady.1.backTo? = some id := by
  rw [backTo?, history_makeReady, h]
  rfl

/-- **The node viewed last is the one reference that may lead nowhere.** Whatever is done with a session but to put
nodes on its history by hand, the nodes of the active result and the targets in order are in the outline, and so is
all that is on the history except for the node viewed last. All references are sound at all times if and only if
there is no such node, or one of the outline; otherwise the session refers to a lost node, and goes back to it, as
soon as it has been made ready. -/
theorem refersToNodes_proceed (o : Outline) (tables : Tables) :
    let fresh : Session := { outline := o, tables }
    (∀ steps, (∀ id, .operate (.remember id) ∉ steps) →
      let t := fresh.proceed steps
      (∀ id ∈ t.results.nodes, id ∈ t.outline.ids) ∧
      (∀ id ∈ t.targetOrder, id ∈ t.outline.ids) ∧
      (∀ id ∈ t.history.entries, id ∈ t.outline.ids ∨ tables.lastViewed = some id) ∧
      (∀ id, tables.lastViewed = some id → t.makeReady.1.backTo? = some id)) ∧
    ((∀ steps, (∀ id, .operate (.remember id) ∉ steps) → (fresh.proceed steps).RefersToNodes) ↔
      ∀ id, tables.lastViewed = some id → id ∈ o.ids) := by
  intro fresh
  have hrecalls : ∀ steps, (∀ id, .operate (.remember id) ∉ steps) →
      ∀ id ∈ (fresh.proceed steps).history.entries, id ∈ o.ids ∨ tables.lastViewed = some id :=
    fun steps hsteps => recalls_proceed (s := fresh) hsteps fun id hid => nomatch hid
  have hids : ∀ steps, (fresh.proceed steps).outline.ids = o.ids := fun steps =>
    (fresh.moves_proceed steps).sameUnedited.ids.symm
  have hresults : ∀ steps, ∀ id ∈ (fresh.proceed steps).results.nodes, id ∈ (fresh.proceed steps).outline.ids :=
    fun steps => (fresh.moves_proceed steps).mem_ids_of_mem_results fun id hid => nomatch hid
  have htargets : ∀ steps, ∀ id ∈ (fresh.proceed steps).targetOrder, id ∈ (fresh.proceed steps).outline.ids :=
    fun steps => (fresh.moves_proceed steps).mem_ids_of_mem_targetOrder fun id hid => nomatch hid
  refine ⟨fun steps hsteps => ⟨hresults steps, htargets steps, ?_, fun id hlast => ?_⟩, ?_, ?_⟩
  · rw [hids]
    exact hrecalls steps hsteps
  · exact backTo?_makeReady ((fresh.moves_proceed steps).tables ▸ hlast)
  · intro h id hlast
    have hready : (fresh.proceed [.operate .makeReady]).RefersToNodes := h _ (by simp)
    exact hids [.operate .makeReady] ▸ hready.mem_ids_of_backTo? (backTo?_makeReady hlast)
  · intro hlast steps hsteps
    refine ⟨hresults steps, htargets steps, fun id hid => hids steps ▸ ?_⟩
    rcases hrecalls steps hsteps id hid with hmem | hviewed
    · exact hmem
    · exact hlast id hviewed

/-- A survey left at the second loop, from which the first one is left for the routine. -/
theorem refersToNodes_proceed_pair :
    let fresh : Session :=
      { outline := Sample.pairOutline, tables := { Sample.pairTables with lastViewed := some Sample.secondId } }
    let t := fresh.proceed [.operate .makeReady, .operate (.jumpToCallee Sample.firstId)]
    t.RefersToNodes ∧ t.history.entries = [Sample.firstId, Sample.secondId] := by
  intro fresh t
  have hviewed : ∀ id, fresh.tables.lastViewed = some id → id ∈ Sample.pairOutline.ids := by
    rintro id hid
    cases hid
    decide
  exact ⟨(refersToNodes_proceed Sample.pairOutline fresh.tables).2.2 hviewed _ (by simp), by decide⟩

end Session

/-- A loop in a survey that was left at a node which no record has. -/
def Sample.lostView : Forest Record :=
  .cons { id := .text "a", lastViewed := some (.text "gone") } .nil .nil

/-- Made ready, the loaded session has nothing on its history but the node that is not there, and goes back to it. -/
theorem Session.not_refersToNodes_lostView :
    ∃ o tables, Record.load Sample.lostView = .ok (o, tables) ∧
      let t := ({ outline := o, tables } : Session).proceed [.operate .makeReady]
      Sample.lostId ∉ t.outline.ids ∧ t.history.entries = [Sample.lostId] ∧ t.backTo? = some Sample.lostId :=
  ⟨_, _, rfl, by decide, rfl, rfl⟩

end LoopSurvey
