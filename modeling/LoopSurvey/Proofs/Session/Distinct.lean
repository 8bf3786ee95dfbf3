import Mathlib.Data.List.Rotate
import LoopSurvey.Proofs.Session.Callees
import LoopSurvey.Proofs.Session.Targets
/-!
# How often a node is listed in the active result

The hits of a search are nodes of the outline in pre-order, each once. Jumps present lists that have been given to
them: the targets in order, the candidates of a callee, or nodes that were picked (`Listed`). A list that is presented
is sorted and cut down to nodes of the outline, but a node listed in it twice is in the result twice. So where no
nodes are picked, the active result is free of repetitions at all times if and only if the tables list no node of the
outline twice (`nodup_results_run`). Stepping on visits each node of the result as often as it is listed
(`round_eq_rotate`).
-/

namespace LoopSurvey

namespace Outline

variable {o o' : Outline} {ids : List NodeId}

theorem nodup_sortByLine : (o.sortByLine ids).Nodup ↔ ids.Nodup :=
  (o.sortedByLine_sortByLine ids).perm.nodup_iff

/-- The hits of a search are nodes in pre-order. -/
theorem nodup_hits (o : Outline) (keyword : String) (scope : SearchScope) : (o.hits keyword scope).Nodup := by
  rw [← hits_eq]
  exact o.nodup.sublist (List.filter_sublist.map Node.id)

/-- Each place is one of the other outline, with nodes that are edited and shown differently at most. -/
theorem SameUnedited.exists_place (h : o.SameUnedited o') {p : Place Node} (hp : p ∈ o'.places) :
    ∃ q ∈ o.places, q.map Node.unedited = p.map Node.unedited := by
  have hplaces : o.places.map (Place.map Node.unedited) = o'.places.map (Place.map Node.unedited) := by
    rw [places, places, ← Forest.places_map, ← Forest.places_map, h]
  exact List.mem_map.1 (hplaces ▸ List.mem_map_of_mem hp)

end Outline

/-- A leaf stays a leaf, whatever is done to its node. -/
theorem Place.isLeaf_map (f : α → β) (p : Place α) : (p.map f).isLeaf = p.isLeaf := by
  simp [isLeaf, map]

/-- Tables list no node of an outline twice, neither among the targets nor among the candidates of a leaf. -/
structure Tables.ListsOnce (t : Tables) (o : Outline) : Prop where
  targets : (t.targets.filter o.contains).Nodup
  candidates : ∀ p ∈ o.places, p.isLeaf = true → ∀ ids ∈ t.listed? p.node, (ids.filter o.contains).Nodup

/-- Whether nodes are listed twice does not depend on edits. -/
theorem Tables.ListsOnce.of_sameUnedited {t : Tables} {o o' : Outline} (h : t.ListsOnce o)
    (ho : o.SameUnedited o') : t.ListsOnce o' := by
  refine ⟨ho.contains ▸ h.targets, fun p hp hleaf ids hids => ?_⟩
  obtain ⟨q, hq, hqp⟩ := ho.exists_place hp
  have hqleaf : q.isLeaf = true := by rw [← q.isLeaf_map Node.unedited, hqp, p.isLeaf_map, hleaf]
  obtain ⟨hnode, -, -⟩ := Place.mk.inj hqp
  have hpayload : q.node.unedited.payload = p.node.unedited.payload := congrArg Node.payload hnode
  change q.node.payload = p.node.payload at hpayload
  rw [Tables.listed?, ← hpayload, ← Tables.listed?] at hids
  exact ho.contains ▸ h.candidates q hq hqleaf ids hids

namespace Session

variable {s s' : Session}

/-! ## Where a result comes from -/

/-- The lists of nodes that an operation presents without a search. -/
inductive Listed (s : Session) : Operation → List NodeId → Prop
  | targets : Listed s .jumpToTargets s.targetOrder
  | candidates {id : NodeId} {p : Place Node} {ids : List NodeId} (hp : s.outline.locate? id = some p)
      (hleaf : p.isLeaf = true) (hids : s.tables.listed? p.node = some ids) : Listed s (.jumpToCallee id) ids
  | given (ids : List NodeId) : Listed s (.jumpTo ids) ids

/-- What the active result of a session may become: nothing, the same nodes with another cursor, the hits of a search,
or the nodes of a list. -/
inductive Shows (s : Session) (op : Operation) : Results → Prop
  | nothing : Shows s op {}
  | same (cursor : Nat) : Shows s op { s.results with cursor }
  | hits (keyword : String) (scope : SearchScope) :
      Shows s op { keyword, nodes := s.outline.sortByLine (s.outline.hits keyword scope) }
  | listed {ids : List NodeId} (h : Listed s op ids) :
      Shows s op { nodes := s.outline.sortByLine (ids.filter s.outline.contains) }

variable {op : Operation}

theorem shows_clearResults (s : Session) : s.Shows op s.clearResults.1.results := .nothing

theorem shows_searchAnew (s : Session) (keyword : String) (scope : SearchScope) :
    s.Shows op (s.searchAnew keyword scope).1.results := by
  rw [results_searchAnew]
  split
  · exact .nothing
  · exact .hits keyword scope

theorem shows_advance (s : Session) : s.Shows op s.results.advance := by
  obtain ⟨cursor, he⟩ := s.results.exists_advance_eq
  rw [he]
  exact .same cursor

theorem shows_retreat (s : Session) : s.Shows op s.results.retreat := by
  obtain ⟨cursor, he⟩ := s.results.exists_retreat_eq
  rw [he]
  exact .same cursor

theorem shows_search (s : Session) (keyword : String) (scope : SearchScope) :
    s.Shows op (s.search keyword scope).1.results := by
  rcases s.search_cases keyword scope with ⟨-, he⟩ | ⟨-, -, -, node, he⟩ | ⟨-, -, he⟩ <;> rw [he]
  · exact s.shows_clearResults
  · exact s.shows_advance
  · exact s.shows_searchAnew _ scope

theorem shows_changeScope (s : Session) (keyword : String) (scope : SearchScope) :
    s.Shows op (s.changeScope keyword scope).1.results := by
  rcases s.changeScope_cases keyword scope with he | he <;> rw [he]
  · exact .same s.results.cursor
  · -- what is looked for after the result has been dropped is looked for in the same outline
    rcases s.clearResults.1.search_cases keyword scope with ⟨-, hs⟩ | ⟨-, hne, -⟩ | ⟨-, -, hs⟩
    · rw [hs]
      exact .nothing
    · exact absurd rfl hne
    · rw [hs, searchAnew_congr _ _ _ s.alike_clearResults.symm]
      exact s.shows_searchAnew _ scope

theorem shows_calleeChoice (s : Session) (id : NodeId) : s.Shows op (s.calleeChoice id).1.results := by
  rcases s.calleeChoice_cases id with he | he <;> rw [he]
  · exact .same s.results.cursor
  · exact s.shows_clearResults

/-- Presented in a session without results, the nodes of a list become the result. -/
theorem results_presentAll_of_none (hr : s.results = {}) (hits : List NodeId) :
    (s.presentAll "" hits).1.results = { nodes := s.outline.sortByLine (hits.filter s.outline.contains) } := by
  rcases s.present_cases "" (s.ancestorsOf hits) hits with ⟨hnil, he⟩ | ⟨-, he⟩
  · rw [presentAll, he, hnil, hr, Outline.sortByLine_eq_nil_iff.2 rfl]
  · rw [presentAll, he]

/-- A list is presented after the result has been dropped, which changes neither identifiers nor line keys. -/
theorem Listed.shows {ids : List NodeId} (h : Listed s op ids) :
    s.Shows op (s.clearResults.1.presentAll "" ids).1.results := by
  rw [results_presentAll_of_none s.results_clearResults, ← s.alike_clearResults.sortByLine,
    ← s.alike_clearResults.sameUnedited.contains]
  exact .listed h

theorem shows_jumpToCallee (s : Session) (id : NodeId) : s.Shows (.jumpToCallee id) (s.jumpToCallee id).1.results := by
  rcases s.jumpToCallee_cases id with ⟨callee, candidates, hask, he⟩ | ⟨-, he⟩
  · obtain ⟨-, p, hp, hleaf, hcallee, hcandidates⟩ := calleeChoice_eq_ask hask
    have hids : s.tables.listed? p.node = some candidates := by
      rw [Tables.listed?, hcallee, Option.bind_some, hcandidates]
    obtain ⟨history, hv⟩ := s.clearResults.1.visit_eq id
    have hpresented : (s.clearResults.1.jumpToCandidates id candidates).1.results =
        (s.clearResults.1.presentAll "" candidates).1.results := by
      rw [jumpToCandidates, hv, results_presentAll_of_none rfl, results_presentAll_of_none rfl]
    rw [he, hpresented]
    exact (Listed.candidates hp hleaf hids).shows
  · rw [he]
    exact s.shows_calleeChoice id

theorem shows_edit (s : Session) (e : Edit) : s.Shows op (s.operate (.edit e)).results := by
  rcases s.operate_edit_cases e with he | ⟨affected, he⟩
  · rw [he]
    exact .same s.results.cursor
  · rw [he]
    exact .same s.results.cursor

/-- What an operation makes of the active result. -/
theorem shows_operate (s : Session) (op : Operation) : s.Shows op (s.operate op).results := by
  cases op with
  | search keyword scope => exact s.shows_search keyword scope
  | changeScope keyword scope => exact s.shows_changeScope keyword scope
  | clearResults => exact s.shows_clearResults
  | next => exact s.shows_advance
  | previous => exact s.shows_retreat
  | calleeChoice node => exact s.shows_calleeChoice node
  | jumpToCallee node => exact s.shows_jumpToCallee node
  | makeReady =>
    obtain ⟨targetOrder, history, he⟩ := s.makeReady_eq
    rw [operate, he]
    exact .same s.results.cursor
  | jumpToTargets =>
    rcases s.jumpToTargets_cases with he | he <;> rw [operate, he]
    · exact .same s.results.cursor
    · exact Listed.targets.shows
  | jumpTo nodes =>
    rcases s.jumpTo_cases nodes with he | he <;> rw [operate, he]
    · exact .same s.results.cursor
    · exact (Listed.given nodes).shows
  | edit e => exact s.shows_edit e
  | remember | expandAll | collapseAll | expandLoops => exact .same s.results.cursor

/-! ## Results without repetitions -/

/-- A result with a keyword has been found by a search, which finds each node once. -/
def FoundOnce (r : Results) : Prop := r.keyword ≠ "" → r.nodes.Nodup

theorem Shows.foundOnce {r : Results} (h : s.Shows op r) (hs : FoundOnce s.results) : FoundOnce r := by
  cases h with
  | nothing => exact fun hkeyword => absurd rfl hkeyword
  | same cursor => exact hs
  | hits keyword scope => exact fun _ => Outline.nodup_sortByLine.2 (s.outline.nodup_hits keyword scope)
  | listed _ => exact fun hkeyword => absurd rfl hkeyword

theorem foundOnce_run (h : FoundOnce s.results) (operations : List Operation) :
    FoundOnce (s.run operations).results := by
  induction operations generalizing s with
  | nil => exact h
  | cons op operations ih => exact ih ((s.shows_operate op).foundOnce h)

/-- Neither the tables nor the targets in order nor the active result list a node of the outline twice. -/
structure Distinct (s : Session) : Prop where
  tables : s.tables.ListsOnce s.outline
  targetOrder : s.targetOrder.Nodup
  results : s.results.nodes.Nodup

theorem Listed.nodup {ids : List NodeId} (h : Listed s op ids) (hop : ∀ nodes, op ≠ .jumpTo nodes) (hs : s.Distinct) :
    (ids.filter s.outline.contains).Nodup := by
  cases h with
  | targets => exact hs.targetOrder.filter _
  | candidates hp hleaf hids => exact hs.tables.candidates _ (Outline.locate?_eq_some_iff.1 hp).1 hleaf _ hids
  | given ids => exact absurd rfl (hop ids)

theorem Shows.nodup {r : Results} (h : s.Shows op r) (hop : ∀ nodes, op ≠ .jumpTo nodes) (hs : s.Distinct) :
    r.nodes.Nodup := by
  cases h with
  | nothing => exact List.nodup_nil
  | same cursor => exact hs.results
  | hits keyword scope => exact Outline.nodup_sortByLine.2 (s.outline.nodup_hits keyword scope)
  | listed hids => exact Outline.nodup_sortByLine.2 (hids.nodup hop hs)

theorem Move.nodup_targetOrder (h : Move s s') (ht : s.tables.ListsOnce s.outline) (hs : s.targetOrder.Nodup) :
    s'.targetOrder.Nodup := by
  rcases h.targetOrder with he | rfl
  · rw [he]
    exact hs
  · exact Outline.nodup_sortByLine.2 ht.targets

theorem Moves.listsOnce (h : Moves s s') (ht : s.tables.ListsOnce s.outline) : s'.tables.ListsOnce s'.outline := by
  rw [h.tables]
  exact ht.of_sameUnedited h.sameUnedited

theorem Moves.nodup_targetOrder (h : Moves s s') (ht : s.tables.ListsOnce s.outline) (hs : s.targetOrder.Nodup) :
    s'.targetOrder.Nodup := by
  induction h with
  | refl => exact hs
  | tail hmoves hmove ih => exact hmove.nodup_targetOrder (Moves.listsOnce hmoves ht) ih

/-- Unless nodes are picked, an operation leaves nothing listed twice. -/
theorem Distinct.operate (h : s.Distinct) (hop : ∀ nodes, op ≠ .jumpTo nodes) : (s.operate op).Distinct where
  tables := (s.moves_operate op).listsOnce h.tables
  targetOrder := (s.moves_operate op).nodup_targetOrder h.tables h.targetOrder
  results := (s.shows_operate op).nodup hop h

theorem Distinct.run (h : s.Distinct) {operations : List Operation} (hops : ∀ nodes, .jumpTo nodes ∉ operations) :
    (s.run operations).Distinct := by
  induction operations generalizing s with
  | nil => exact h
  | cons op operations ih =>
    have hop : ∀ nodes, op ≠ .jumpTo nodes := fun nodes he => hops nodes (he ▸ List.mem_cons_self)
    exact ih (h.operate hop) fun nodes hmem => hops nodes (List.mem_cons_of_mem _ hmem)

/-! ## A round -/

/-- The session after some steps to the next node. -/
def onward (s : Session) : Nat → Session
  | 0 => s
  | n + 1 => (s.onward n).next.1

/-- What one comes to, step by step, by as many steps as the active result has nodes. -/
def round (s : Session) : List (Option NodeId) :=
  (List.range s.results.nodes.length).map fun n => (s.onward n).next.2

/-- After some steps, at least one, the cursor is as many nodes further round. -/
theorem results_onward (h : s.results.nodes ≠ []) (n : Nat) :
    (s.onward (n + 1)).results = ⟨s.results.keyword, s.results.nodes,
      (s.results.cursor + (n + 1)) % s.results.nodes.length⟩ := by
  induction n with
  | zero => exact Results.advance_of_ne_nil h
  | succ n ih =>
    have hnext : (s.onward (n + 2)).results = (s.onward (n + 1)).results.advance := rfl
    have hadvance : ∀ cursor, (⟨s.results.keyword, s.results.nodes, cursor⟩ : Results).advance =
        ⟨s.results.keyword, s.results.nodes, (cursor + 1) % s.results.nodes.length⟩ :=
      fun cursor => Results.advance_of_ne_nil h
    rw [hnext, ih, hadvance, Nat.mod_add_mod, Nat.add_assoc]

/-- A round visits the nodes of the result in order, beginning with the one after the cursor. -/
theorem round_eq_rotate (s : Session) : s.round = (s.results.nodes.rotate (s.results.cursor + 1)).map some := by
  apply List.ext_getElem
  · simp [round]
  · intro n hn _
    have hlt : n < s.results.nodes.length := by simpa [round] using hn
    have hne : s.results.nodes ≠ [] := List.ne_nil_of_length_pos (Nat.zero_lt_of_lt hlt)
    have hmod : (n + (s.results.cursor + 1)) % s.results.nodes.length < s.results.nodes.length :=
      Nat.mod_lt _ (List.length_pos_iff.2 hne)
    have hstep : (s.onward n).next.2 = (s.onward (n + 1)).results.current? := rfl
    simp only [round, List.getElem_map, List.getElem_range, hstep, results_onward hne, Results.current?,
      List.getElem_rotate]
    rw [show s.results.cursor + (n + 1) = n + (s.results.cursor + 1) by omega, List.getElem?_eq_getElem hmod]

/-! ## All runs -/

/-- A jump to the targets of a session that has been made ready presents them as they are listed. -/
theorem nodup_targets (h : (s.run [.makeReady, .jumpToTargets]).results.nodes.Nodup) :
    (s.tables.targets.filter s.outline.contains).Nodup := by
  by_cases hne : s.makeReady.1.targetOrder = []
  · rw [targetOrder_makeReady, Outline.sortByLine_eq_nil_iff] at hne
    rw [hne]
    exact List.nodup_nil
  · have hrun : s.run [.makeReady, .jumpToTargets] = s.makeReady.1.jumpToTargets.1 := rfl
    rw [hrun, s.ordered_makeReady.results_jumpToTargets hne, targetOrder_makeReady] at h
    exact Outline.nodup_sortByLine.1 h

/-- A jump from a leaf presents the candidates of its callee as they are listed. -/
theorem nodup_candidates {p : Place Node} {ids : List NodeId} (hp : p ∈ s.outline.places) (hleaf : p.isLeaf = true)
    (hids : s.tables.listed? p.node = some ids) (h : (s.run [.jumpToCallee p.id]).results.nodes.Nodup) :
    (ids.filter s.outline.contains).Nodup := by
  have hlocated : s.outline.locate? p.id = some p := Outline.locate?_eq_some_iff.2 ⟨hp, rfl⟩
  obtain ⟨callee, hask⟩ := calleeChoice_of_listed hlocated hleaf hids
  have hmem : p.id ∈ s.clearResults.1.outline.ids := s.alike_clearResults.ids ▸ mem_ids_of_locate? hlocated
  have hrun : s.run [.jumpToCallee p.id] = (s.jumpToCallee p.id).1 := rfl
  rw [hrun, jumpToCallee_of_ask hask] at h
  dsimp only at h
  rw [nodes_jumpToCandidates hmem s.results_clearResults, Outline.nodup_sortByLine,
    ← s.alike_clearResults.sameUnedited.contains] at h
  exact h

/-- **The active result repeats what the tables repeat.** As long as no nodes are picked, the active result never has
a node twice if and only if the tables list no node of the outline twice, as a target or as a candidate of a leaf's
callee. Results of searches never have a node twice, whatever has been done before. A round of steps visits exactly
the nodes of the active result, each as often as it has them. -/
theorem nodup_results_run (o : Outline) (tables : Tables) :
    let fresh : Session := { outline := o, tables }
    ((∀ operations, (∀ nodes, .jumpTo nodes ∉ operations) → (fresh.run operations).results.nodes.Nodup) ↔
      tables.ListsOnce o) ∧
    ∀ operations,
      let t := fresh.run operations
      (t.results.keyword ≠ "" → t.results.nodes.Nodup) ∧
      t.round = (t.results.nodes.rotate (t.results.cursor + 1)).map some := by
  intro fresh
  refine ⟨⟨fun h => ⟨?_, fun p hp hleaf ids hids => ?_⟩, fun h operations hops => ?_⟩, fun operations => ⟨?_, ?_⟩⟩
  · exact nodup_targets (s := fresh) (h _ (by simp))
  · exact nodup_candidates (s := fresh) hp hleaf hids (h _ (by simp))
  · exact (Distinct.run (s := fresh) ⟨h, List.nodup_nil, List.nodup_nil⟩ hops).results
  · exact foundOnce_run (s := fresh) (fun _ => List.nodup_nil) operations
  · exact round_eq_rotate _

/-- The two loops are listed once, so whatever is presented of them is. -/
theorem nodup_results_run_pair :
    Sample.pairTables.ListsOnce Sample.pairOutline ∧
    (Sample.pairSession.run [.makeReady, .jumpToTargets, .next, .jumpToCallee Sample.firstId]).results.nodes.Nodup := by
  have honce : Sample.pairTables.ListsOnce Sample.pairOutline := ⟨by decide, by decide⟩
  exact ⟨honce, (nodup_results_run Sample.pairOutline Sample.pairTables).1.2 honce _ (by simp)⟩

end Session

/-- A loop that the list of targets has twice. -/
def Sample.repeatedTarget : Forest Record :=
  .cons { id := .text "a", targets := [.text "a", .text "a"] } .nil .nil

/-- Presented as targets, the one loop counts twice, and both steps of a round come to it. -/
theorem Session.not_nodup_repeatedTarget :
    ∃ o tables, Record.load Sample.repeatedTarget = .ok (o, tables) ∧
      let t := ({ outline := o, tables } : Session).run [.makeReady, .jumpToTargets]
      t.results.nodes = [Sample.firstId, Sample.firstId] ∧ t.round = [some Sample.firstId, some Sample.firstId] := by
  have hsorted : ∀ o : Outline, o.sortByLine [Sample.firstId, Sample.firstId] = [Sample.firstId, Sample.firstId] := by
    intro o
    refine Outline.sortByLine_eq_self ?_
    simpa using LineKey.le_total (o.lineKey? Sample.firstId) (o.lineKey? Sample.firstId)
  have hresults : ∀ fresh : Session,
      fresh.tables.targets.filter fresh.outline.contains = [Sample.firstId, Sample.firstId] →
      (fresh.run [.makeReady, .jumpToTargets]).results = { nodes := [Sample.firstId, Sample.firstId] } := by
    intro fresh htargets
    have horder : fresh.makeReady.1.targetOrder = [Sample.firstId, Sample.firstId] := by
      rw [Session.targetOrder_makeReady, htargets, hsorted]
    have hjump := fresh.ordered_makeReady.results_jumpToTargets (horder ▸ List.cons_ne_nil _ _)
    rwa [horder] at hjump
  refine ⟨_, _, rfl, ?_⟩
  intro t
  have ht : t.results = { nodes := [Sample.firstId, Sample.firstId] } := hresults _ rfl
  rw [Session.round_eq_rotate, ht]
  exact ⟨rfl, rfl⟩

end LoopSurvey
