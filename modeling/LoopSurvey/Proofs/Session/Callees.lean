import LoopSurvey.Proofs.Session.Reveal
import LoopSurvey.Proofs.Session.Steady
import LoopSurvey.Record.Load
import LoopSurvey.Sample.Pair
/-!
# Where jumps to callees land

Whether a jump from a leaf is offered depends on the table of callees alone, while the nodes that it presents are
those of the candidates that are in the outline. Neither changes as a session goes on. So a jump that is offered
once comes to the same nodes whenever it is taken, and a callee that is only listed at nodes which the outline does
not have is offered for ever, with nothing to land on (`callees_proceed`).
-/

namespace LoopSurvey

/-- The candidates that are listed for the callee of a node. -/
def Tables.listed? (t : Tables) (n : Node) : Option (List NodeId) := n.payload.callee.bind t.candidates?

namespace Session

variable {s s' : Session} {id : NodeId} {p : Place Node} {callee : String} {candidates : List NodeId}

/-! ## What is offered -/

theorem calleeChoice_of_inner (hp : s.outline.locate? id = some p) (hinner : p.isLeaf = false) :
    s.calleeChoice id = (s, .openSource) := by
  simp [calleeChoice, hp, hinner]

/-- Activating a leaf drops the result, whatever is listed for it. -/
theorem calleeChoice_of_leaf (hp : s.outline.locate? id = some p) (hleaf : p.isLeaf = true) :
    s.calleeChoice id = (s.clearResults.1,
      (p.node.payload.callee.bind fun callee =>
        (s.tables.candidates? callee).map (.ask callee)).getD .openSource) := by
  simp only [calleeChoice, hp, hleaf, Bool.not_true, Bool.false_eq_true, if_false]
  cases p.node.payload.callee with
  | none => rfl
  | some callee => cases hc : s.tables.candidates? callee <;> simp [hc]

theorem calleeChoice_of_unlisted (hp : s.outline.locate? id = some p) (hleaf : p.isLeaf = true)
    (hnone : s.tables.listed? p.node = none) : s.calleeChoice id = (s.clearResults.1, .openSource) := by
  have hunlisted := Option.bind_eq_none_iff.1 hnone
  rw [calleeChoice_of_leaf hp hleaf, Option.bind_eq_none_iff.2 fun callee hc => ?_, Option.getD_none]
  rw [hunlisted callee hc, Option.map_none]

theorem calleeChoice_of_listed (hp : s.outline.locate? id = some p) (hleaf : p.isLeaf = true)
    (hsome : s.tables.listed? p.node = some candidates) :
    ∃ callee, s.calleeChoice id = (s.clearResults.1, .ask callee candidates) := by
  obtain ⟨callee, hc, hcandidates⟩ := Option.bind_eq_some_iff.1 hsome
  refine ⟨callee, ?_⟩
  rw [calleeChoice_of_leaf hp hleaf, hc, Option.bind_some, hcandidates, Option.map_some, Option.getD_some]

/-- A jump is offered from leaves with a listed callee, and the result has been dropped then. -/
theorem calleeChoice_eq_ask (h : s.calleeChoice id = (s', .ask callee candidates)) :
    s' = s.clearResults.1 ∧ ∃ p, s.outline.locate? id = some p ∧ p.isLeaf = true ∧
      p.node.payload.callee = some callee ∧ s.tables.candidates? callee = some candidates := by
  have hoffered : s.calleeChoice id ≠ (s, .openSource) := fun he => by
    rw [he] at h
    cases h
  obtain ⟨p, hp, hleaf⟩ := isLeaf_of_calleeChoice hoffered
  rw [calleeChoice_of_leaf hp hleaf] at h
  obtain ⟨hs, hoffer⟩ := Prod.mk.inj h
  cases hc : p.node.payload.callee with
  | none =>
    rw [hc] at hoffer
    cases hoffer
  | some callee' =>
    rw [hc, Option.bind_some] at hoffer
    cases hcandidates : s.tables.candidates? callee' with
    | none =>
      rw [hcandidates] at hoffer
      cases hoffer
    | some candidates' =>
      rw [hcandidates] at hoffer
      cases hoffer
      exact ⟨hs.symm, p, hp, hleaf, hc, hcandidates⟩

/-! ## Where a jump lands -/

theorem mem_ids_of_locate? (hp : s.outline.locate? id = some p) : id ∈ s.outline.ids :=
  Outline.mem_ids_iff_places.2 ⟨p, Outline.locate?_eq_some_iff.1 hp⟩

theorem visit_of_mem (h : id ∈ s.outline.ids) : s.visit id = { s with history := s.history.push id } :=
  if_pos (Outline.contains_iff.2 h)

@[simp] theorem history_presentAll (keyword : String) (hits : List NodeId) :
    (s.presentAll keyword hits).1.history = s.history := by
  rcases s.present_cases keyword (s.ancestorsOf hits) hits with ⟨-, he⟩ | ⟨-, he⟩ <;> rw [presentAll, he]

/-- Without a result before, the nodes of the outline among those presented are the nodes of the result. -/
theorem nodes_presentAll (hr : s.results = {}) (keyword : String) (hits : List NodeId) :
    (s.presentAll keyword hits).1.results.nodes = s.outline.sortByLine (hits.filter s.outline.contains) := by
  rcases s.present_cases keyword (s.ancestorsOf hits) hits with ⟨hnil, he⟩ | ⟨-, he⟩
  · rw [presentAll, he, hnil, hr, Outline.sortByLine_eq_nil_iff.2 rfl]
  · rw [presentAll, he]

theorem presentAll_of_lost {hits : List NodeId} (hlost : ∀ c ∈ hits, c ∉ s.outline.ids) (keyword : String) :
    s.presentAll keyword hits = (s, {}) := by
  have hnil : hits.filter s.outline.contains = [] :=
    List.filter_eq_nil_iff.2 fun c hc hcontained => hlost c hc (Outline.contains_iff.1 hcontained)
  rcases s.present_cases keyword (s.ancestorsOf hits) hits with ⟨-, he⟩ | ⟨hne, -⟩
  · rw [presentAll, he]
  · exact absurd hnil hne

section Landing

variable (hid : id ∈ s.outline.ids) (hr : s.results = {})
include hid

theorem jumpToCandidates_eq (candidates : List NodeId) :
    s.jumpToCandidates id candidates =
      ({ s with history := s.history.push id } : Session).presentAll "" candidates := by
  rw [jumpToCandidates, visit_of_mem hid]

theorem history_jumpToCandidates (candidates : List NodeId) :
    (s.jumpToCandidates id candidates).1.history = s.history.push id := by
  rw [jumpToCandidates_eq hid, history_presentAll]

/-- The jump comes to nothing where no candidate is in the outline, but is remembered all the same. -/
theorem jumpToCandidates_of_lost (hlost : ∀ c ∈ candidates, c ∉ s.outline.ids) :
    s.jumpToCandidates id candidates = ({ s with history := s.history.push id }, {}) := by
  rw [jumpToCandidates_eq hid, presentAll_of_lost (s := { s with history := s.history.push id }) hlost]

include hr

theorem nodes_jumpToCandidates (candidates : List NodeId) :
    (s.jumpToCandidates id candidates).1.results.nodes =
      s.outline.sortByLine (candidates.filter s.outline.contains) := by
  rw [jumpToCandidates_eq hid, nodes_presentAll (s := { s with history := s.history.push id }) hr]

theorem isVisible_jumpToCandidates {n : NodeId}
    (hn : n ∈ (s.jumpToCandidates id candidates).1.results.nodes) :
    (s.jumpToCandidates id candidates).1.outline.isVisible n = true := by
  rw [nodes_jumpToCandidates hid hr, Outline.mem_sortByLine, List.mem_filter, Outline.contains_iff] at hn
  rw [jumpToCandidates_eq hid]
  exact isVisible_presentAll hn.1 hn.2

end Landing

/-- Without an offer, a jump does nothing but what activating the node does. -/
theorem jumpToCallee_of_openSource (h : s.calleeChoice id = (s', .openSource)) : s.jumpToCallee id = (s', none) := by
  rw [jumpToCallee, h]

/-- **Where jumps to callees land.** Whatever has been done with a session, a jump that is offered presents the listed
candidates that are in the outline, all of them visible, and the node goes on the history. So it lands somewhere if
and only if one of the candidates is in the outline. Inner nodes are left alone, and so is the history where a leaf
has no listed callee. But a leaf whose callee is listed, and only at nodes that are not there, has its visit
remembered and a jump to no node at all. -/
theorem callees_proceed (o : Outline) (tables : Tables) (steps : List Step) (id : NodeId) :
    let t := ({ outline := o, tables } : Session).proceed steps
    (∀ u callee candidates, t.calleeChoice id = (u, .ask callee candidates) →
      let v := (u.jumpToCandidates id candidates).1
      tables.candidates? callee = some candidates ∧
      v.results.nodes = o.sortByLine (candidates.filter o.contains) ∧
      (v.results.nodes ≠ [] ↔ ∃ c ∈ candidates, c ∈ o.ids) ∧
      (∀ n ∈ v.results.nodes, v.outline.isVisible n = true) ∧
      v.history = t.history.push id) ∧
    ∀ p, t.outline.locate? id = some p →
      (p.isLeaf = false → t.jumpToCallee id = (t, none)) ∧
      (p.isLeaf = true → tables.listed? p.node = none → t.jumpToCallee id = (t.clearResults.1, none)) ∧
      (p.isLeaf = true → ∀ candidates, tables.listed? p.node = some candidates → (∀ c ∈ candidates, c ∉ o.ids) →
        t.jumpToCallee id = ({ t.clearResults.1 with history := t.history.push id }, some {})) := by
  intro t
  have hmoves : Moves { outline := o, tables } t := moves_proceed _ steps
  have htables : t.tables = tables := hmoves.tables
  -- dropping the result touches neither the identifiers nor the payloads
  have hsame : o.SameUnedited t.clearResults.1.outline :=
    hmoves.sameUnedited.trans t.alike_clearResults.sameUnedited
  refine ⟨fun u callee candidates hask => ?offered, fun p hp => ⟨?inner, ?unlisted, ?lost⟩⟩
  case offered =>
    intro v
    obtain ⟨rfl, p, hp, -, -, hcandidates⟩ := calleeChoice_eq_ask hask
    have hid : id ∈ t.clearResults.1.outline.ids := t.alike_clearResults.ids ▸ mem_ids_of_locate? hp
    have hnodes : v.results.nodes = o.sortByLine (candidates.filter o.contains) := by
      rw [hsame.sortByLine, hsame.contains]
      exact nodes_jumpToCandidates hid t.results_clearResults candidates
    refine ⟨htables ▸ hcandidates, hnodes, ?_, fun n hn => ?_, history_jumpToCandidates hid candidates⟩
    · simp [hnodes, Outline.sortByLine_eq_nil_iff, Outline.contains_iff]
    · exact isVisible_jumpToCandidates hid t.results_clearResults hn
  case inner => exact fun hinner => jumpToCallee_of_openSource (calleeChoice_of_inner hp hinner)
  case unlisted =>
    intro hleaf hnone
    exact jumpToCallee_of_openSource (calleeChoice_of_unlisted hp hleaf (htables ▸ hnone))
  case lost =>
    intro hleaf candidates hlisted hlost
    obtain ⟨callee, hask⟩ := calleeChoice_of_listed hp hleaf (htables ▸ hlisted)
    have hid : id ∈ t.clearResults.1.outline.ids := t.alike_clearResults.ids ▸ mem_ids_of_locate? hp
    rw [jumpToCallee_of_ask hask, jumpToCandidates_of_lost hid fun c hc => hsame.ids ▸ hlost c hc]
    rfl

/-- After the routine has been presented by a search, the jump from the first loop lands on it. -/
theorem callees_proceed_pair :
    let t := Sample.pairSession.proceed [.operate (.search "do" .all)]
    ∃ u, t.calleeChoice Sample.firstId = (u, .ask "sub" [Sample.routineId]) ∧
      (u.jumpToCandidates Sample.firstId [Sample.routineId]).1.results.nodes ≠ [] := by
  intro t
  obtain ⟨hoffered, -⟩ :=
    callees_proceed Sample.pairOutline Sample.pairTables [.operate (.search "do" .all)] Sample.firstId
  have hask : t.calleeChoice Sample.firstId = (t.clearResults.1, .ask "sub" [Sample.routineId]) := by
    rfl
  exact ⟨_, hask, (hoffered _ _ _ hask).2.2.1.2 ⟨Sample.routineId, by decide, by decide⟩⟩

end Session

/-- A call whose callee is listed at a node that no record has. -/
def Sample.lostCall : Forest Record :=
  .cons { id := .text "a", callee := some "sub", callees := [("sub", [.text "gone"])] } .nil .nil

/-- The node that no record has. -/
def Sample.lostId : NodeId := ⟨"gone", by decide, by decide⟩

/-- The jump from the call is offered, leads to no node, is counted as one and goes on the history. -/
theorem Session.jumpToCallee_lostCall :
    ∃ o tables, Record.load Sample.lostCall = .ok (o, tables) ∧ Sample.lostId ∉ o.ids ∧
      let s : Session := { outline := o, tables }
      ∃ u, s.calleeChoice Sample.firstId = (u, .ask "sub" [Sample.lostId]) ∧
        (u.jumpToCandidates Sample.firstId [Sample.lostId]).1.results.nodes = [] ∧
        (s.jumpToCallee Sample.firstId).2 = some {} ∧
        (s.jumpToCallee Sample.firstId).1.history.entries = [Sample.firstId] :=
  ⟨_, _, rfl, by decide, _, rfl, rfl, rfl, rfl⟩

end LoopSurvey
