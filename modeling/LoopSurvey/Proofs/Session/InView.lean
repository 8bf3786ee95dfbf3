import LoopSurvey.Proofs.Session.Found
import LoopSurvey.Proofs.Session.Reveal
import LoopSurvey.Proofs.Session.Steady
import LoopSurvey.Sample.Pair
/-!
# The active result stays in view

A result is in view if all its nodes are visible (`Session.InView`). Presenting a list opens what is closed above
its nodes, so what becomes the active result is in view (`inView_presentAll`). What is visible stays so as long as
nothing is closed (`Outline.isVisible_mono`), so every operation that closes no node (`Operation.Closes`) keeps the
active result in view, and all of a run without such operations does (`run_inView`).
-/

namespace LoopSurvey

namespace Outline

variable {o o' : Outline} {id : NodeId}

/-- A change that is none to closed nodes leaves visible what is visible. -/
theorem isVisible_make {c : Change} (hc : c ≠ .setOpened false) (ids : List NodeId) (hid : o.isVisible id = true) :
    (c.make o ids).isVisible id = true := by
  have hid_eq : ∀ n, (if n.id ∈ ids then c.apply n else n).id = n.id := by
    intro n
    split
    · cases c <;> rfl
    · rfl
  refine isVisible_mono (c.forest_make o ids) hid_eq (fun n hn => ?_) hid
  split
  · cases c with
    | setOpened opened =>
      cases opened with
      | true => rfl
      | false => exact absurd rfl hc
    | judge j => exact hn
    | setLevel level => exact hn
    | comment text => exact hn
    | check checked => exact hn
  · exact hn

end Outline

namespace Session

/-- An operation closes a node, or may do so. -/
def Operation.Closes : Operation → Prop
  | .collapseAll _ => True
  | .edit e => e.change = .setOpened false
  | _ => False

/-- All nodes of the active result are visible. -/
def InView (s : Session) : Prop := ∀ id ∈ s.results.nodes, s.outline.isVisible id = true

variable {s : Session}

/-! ## Dropping, stepping, presenting -/

theorem inView_of_nil (h : s.results.nodes = []) : s.InView := by
  intro id hid
  rw [h] at hid
  cases hid

theorem inView_clearResults (s : Session) : s.clearResults.1.InView := inView_of_nil rfl

/-- Moving the cursor changes neither the nodes of the result nor the outline. -/
theorem InView.look (h : s.InView) {results : Results} (hn : results.nodes = s.results.nodes) :
    InView { s with results } := by
  intro id hid
  exact h id (hn ▸ hid)

/-- A list that is presented is the active result afterwards, and in view, or it has no node to present. -/
theorem inView_presentAll (h : s.InView) (keyword : String) (hits : List NodeId) :
    (s.presentAll keyword hits).1.InView := by
  have hcases := s.present_cases keyword (s.ancestorsOf hits) hits
  rcases hcases with ⟨-, he⟩ | ⟨-, he⟩
  · rw [presentAll, he]
    exact h
  · intro id hid
    rw [presentAll, he] at hid
    obtain ⟨hhit, hcontained⟩ := List.mem_filter.1 (Outline.mem_sortByLine.1 hid)
    exact isVisible_presentAll hhit (Outline.contains_iff.1 hcontained)

/-! ## Searching and jumping -/

theorem inView_searchAnew (s : Session) (keyword : String) (scope : SearchScope) :
    (s.searchAnew keyword scope).1.InView := by
  rw [searchAnew_eq_presentAll]
  exact inView_presentAll (inView_of_nil rfl) _ _

theorem InView.search (h : s.InView) (keyword : String) (scope : SearchScope) :
    (s.search keyword scope).1.InView := by
  rcases s.search_cases keyword scope with ⟨-, he⟩ | ⟨-, -, -, node, he⟩ | ⟨-, -, he⟩
  · rw [he]
    exact s.inView_clearResults
  · rw [he]
    exact h.look (nodes_advance s.results)
  · rw [he]
    exact s.inView_searchAnew _ scope

theorem InView.changeScope (h : s.InView) (keyword : String) (scope : SearchScope) :
    (s.changeScope keyword scope).1.InView := by
  rcases s.changeScope_cases keyword scope with he | he
  · rw [he]
    exact h
  · rw [he]
    exact s.inView_clearResults.search keyword scope

theorem InView.calleeChoice (h : s.InView) (id : NodeId) : (s.calleeChoice id).1.InView := by
  rcases s.calleeChoice_cases id with he | he
  · rw [he]
    exact h
  · rw [he]
    exact s.inView_clearResults

theorem InView.jumpToCandidates (h : s.InView) (id : NodeId) (candidates : List NodeId) :
    (s.jumpToCandidates id candidates).1.InView := by
  obtain ⟨history, he⟩ := s.visit_eq id
  unfold Session.jumpToCandidates
  rw [he]
  exact inView_presentAll (s := { s with history }) h "" candidates

theorem InView.jumpToCallee (h : s.InView) (id : NodeId) : (s.jumpToCallee id).1.InView := by
  rcases s.jumpToCallee_cases id with ⟨callee, candidates, -, he⟩ | ⟨-, he⟩
  · rw [he]
    exact s.inView_clearResults.jumpToCandidates id candidates
  · rw [he]
    exact h.calleeChoice id

theorem InView.jumpToTargets (h : s.InView) : s.jumpToTargets.1.InView := by
  rcases s.jumpToTargets_cases with he | he
  · rw [he]
    exact h
  · rw [he]
    exact inView_presentAll s.inView_clearResults "" _

theorem InView.jumpTo (h : s.InView) (ids : List NodeId) : (s.jumpTo ids).1.InView := by
  rcases s.jumpTo_cases ids with he | he
  · rw [he]
    exact h
  · rw [he]
    exact inView_presentAll s.inView_clearResults "" ids

/-! ## Editing and expanding -/

/-- An edit that closes nothing leaves the result in view, accepted or refused. -/
theorem InView.edit (h : s.InView) {e : Edit} (hc : e.change ≠ .setOpened false) : (s.operate (.edit e)).InView := by
  rcases s.operate_edit_cases e with he | ⟨affected, he⟩
  · rw [he]
    exact h
  · rw [he]
    intro id hid
    exact Outline.isVisible_make hc affected (h id hid)

/-- Opening nodes leaves the result in view. -/
theorem InView.setOpened (h : s.InView) {o : Outline} (ho : ∃ ids, o = s.outline.setOpened ids true) :
    (s.withOutline o).InView := by
  obtain ⟨ids, rfl⟩ := ho
  intro id hid
  have hopen : Change.setOpened true ≠ .setOpened false := by decide
  exact Outline.isVisible_make hopen ids (h id hid)

/-! ## Runs -/

/-- Every operation that closes no node keeps the active result in view. -/
theorem InView.operate (h : s.InView) {op : Operation} (hop : ¬op.Closes) : (s.operate op).InView := by
  cases op with
  | search keyword scope => exact h.search keyword scope
  | changeScope keyword scope => exact h.changeScope keyword scope
  | clearResults => exact s.inView_clearResults
  | next => exact h.look (nodes_advance s.results)
  | previous => exact h.look (nodes_retreat s.results)
  | calleeChoice node => exact h.calleeChoice node
  | jumpToCallee node => exact h.jumpToCallee node
  | makeReady =>
    obtain ⟨targetOrder, history, he⟩ := s.makeReady_eq
    rw [Session.operate, he]
    exact h
  | jumpToTargets => exact h.jumpToTargets
  | jumpTo nodes => exact h.jumpTo nodes
  | remember node => exact h
  | edit e => exact h.edit hop
  | expandAll node => exact h.setOpened (s.outline.changeSubtree_eq node true)
  | collapseAll node => exact absurd trivial hop
  | expandLoops node flag => exact h.setOpened (s.outline.expandLoops_eq node flag)

theorem InView.run (h : s.InView) {operations : List Operation} (hops : ∀ op ∈ operations, ¬op.Closes) :
    (s.run operations).InView := by
  induction operations generalizing s with
  | nil => exact h
  | cons op operations ih =>
    have hhead : (s.operate op).InView := h.operate (hops op List.mem_cons_self)
    exact ih hhead fun op' hop' => hops op' (List.mem_cons_of_mem op hop')

/-- **The active result stays in view**: after each of any operations that close no node, on a session that starts
without a result, every node of the active result is visible. -/
theorem run_inView (o : Outline) (t : Tables) (operations : List Operation)
    (h : ∀ op ∈ operations, ¬op.Closes) :
    ∀ before, before <+: operations →
      let s := ({ outline := o, tables := t } : Session).run before
      ∀ id ∈ s.results.nodes, s.outline.isVisible id = true := by
  intro before hbefore
  have hfresh : InView { outline := o, tables := t } := inView_of_nil rfl
  exact hfresh.run fun op hop => h op (hbefore.subset hop)

/-- The two loops, hidden below their closed routine: the search shows them both, and they stay visible while the
result is stepped through, a loop is judged, and both are gone to. -/
theorem run_inView_pair :
    let o := Sample.pairOutline.setOpened [Sample.routineId] false
    let operations : List Operation :=
      [.makeReady, .search "DO" .all, .next, .edit ⟨Sample.firstId, .judge (.judged "Kernel")⟩,
        .jumpTo [Sample.secondId, Sample.firstId]]
    let s := ({ outline := o, tables := Sample.pairTables } : Session).run operations
    o.isVisible Sample.firstId = false ∧ (∀ op ∈ operations, ¬op.Closes) ∧
    Sample.firstId ∈ s.results.nodes ∧ s.outline.isVisible Sample.firstId = true := by
  intro o operations s
  have hclosed : o.isVisible Sample.firstId = false := by decide
  have hops : ∀ op ∈ operations, ¬op.Closes := by
    simp [operations, Operation.Closes]
  have hmem : Sample.firstId ∈ s.results.nodes := by
    change Sample.firstId ∈ Outline.sortByLine _ [Sample.secondId, Sample.firstId]
    rw [Outline.mem_sortByLine]
    decide
  exact ⟨hclosed, hops, hmem, run_inView o Sample.pairTables operations hops operations (List.prefix_refl _) _ hmem⟩

end Session

end LoopSurvey
