import LoopSurvey.Proofs.Outline.LineOrder
import LoopSurvey.Proofs.Outline.Selection
import LoopSurvey.Proofs.Session.Operation
import LoopSurvey.Sample.Pair
/-!
# The selected nodes are the active result

In a coherent session the selected nodes are those of the active result, and the cursor is on one of
them unless there is no result at all (`Session.Coherent`). Presenting a list keeps this where the
result before has been dropped (`Coherent.present`), and so every operation keeps it
(`Coherent.operate`): a session that starts with nothing selected stays coherent (`run_highlight`).
-/

namespace LoopSurvey.Session

/-- No change of an edit touches the selection. -/
theorem selected_make (c : Change) (o : Outline) (ids : List NodeId) :
    (c.make o ids).selected = o.selected := by
  cases c with
  | judge j => exact Outline.selected_updateLabel o ids _
  | setLevel level => exact Outline.selected_updateLabel o ids _
  | comment text => exact Outline.selected_updateLabel o ids _
  | check checked => exact Outline.selected_setChecked o ids checked
  | setOpened opened => exact Outline.selected_setOpened o ids opened

/-- The selected nodes are those of the active result, and the cursor is on one of them unless there is
no result. -/
structure Coherent (s : Session) : Prop where
  mem_selected_iff : ∀ id, id ∈ s.outline.selected ↔ id ∈ s.results.nodes
  placed : s.results = {} ∨ s.results.cursor < s.results.nodes.length

namespace Coherent

variable {s : Session} (h : s.Coherent)
include h

/-! ## What does not touch selection and result -/

/-- Selection and result decide. -/
theorem congr {s' : Session} (ho : s'.outline.selected = s.outline.selected)
    (hr : s'.results = s.results) : s'.Coherent where
  mem_selected_iff id := by rw [ho, hr]; exact h.mem_selected_iff id
  placed := by rw [hr]; exact h.placed

theorem withOutline {o : Outline} (ho : o.selected = s.outline.selected) : (s.withOutline o).Coherent :=
  h.congr ho rfl

theorem selected_eq_nil (hr : s.results = {}) : s.outline.selected = [] := by
  refine List.eq_nil_iff_forall_not_mem.2 fun id hid => ?_
  have hm := (h.mem_selected_iff id).1 hid
  rw [hr] at hm
  cases hm

/-! ## Dropping, stepping, presenting -/

/-- Dropping the result deselects its nodes, which are all that are selected. -/
theorem clearResults : s.clearResults.1.Coherent where
  mem_selected_iff id := by
    rw [clearResults_eq, Outline.mem_selected_deselect, h.mem_selected_iff]
    simp
  placed := Or.inl rfl

/-- Moving the cursor to a place in range changes nothing else. -/
theorem moveCursor {cursor : Nat} (hc : cursor < s.results.nodes.length) :
    Coherent { s with results := { s.results with cursor } } :=
  ⟨h.mem_selected_iff, Or.inr hc⟩

theorem next : s.next.1.Coherent := by
  rw [next_eq]
  by_cases hn : s.results.nodes = []
  · exact h.congr rfl (by simp [Results.advance, Results.isEmpty, hn])
  · rw [Results.advance_of_ne_nil hn]
    exact h.moveCursor (Nat.mod_lt _ (List.length_pos_iff.2 hn))

theorem previous : s.previous.1.Coherent := by
  rw [previous_eq]
  by_cases hn : s.results.nodes = []
  · exact h.congr rfl (by simp [Results.retreat, Results.isEmpty, hn])
  · have hpos : 0 < s.results.nodes.length := List.length_pos_iff.2 hn
    rw [Results.retreat_of_ne_nil hn]
    refine h.moveCursor ?_
    rcases h.placed with he | hlt
    · exact absurd (by rw [he]) hn
    · split <;> omega

/-- Where no result is active, a presented list becomes the result and is what is selected. -/
theorem present (hr : s.results = {}) (keyword : String) (ancestors hits : List NodeId) :
    (s.present keyword ancestors hits).1.Coherent := by
  rcases s.present_cases keyword ancestors hits with ⟨-, he⟩ | ⟨hne, he⟩
  · rw [he]
    exact h
  · rw [he]
    refine ⟨fun id => ?_, Or.inr ?_⟩
    · rw [Outline.mem_selected_select, Outline.selected_setOpened, h.selected_eq_nil hr,
        Outline.ids_setOpened, Outline.mem_sortByLine, List.mem_filter, Outline.contains_iff]
      simp only [List.not_mem_nil, false_or, and_assoc, and_self]
    · rw [Outline.length_sortByLine]
      exact List.length_pos_iff.2 hne

theorem presentAll (hr : s.results = {}) (keyword : String) (hits : List NodeId) :
    (s.presentAll keyword hits).1.Coherent :=
  h.present hr keyword _ hits

/-! ## Searching and jumping -/

theorem searchAnew (keyword : String) (scope : SearchScope) :
    (s.searchAnew keyword scope).1.Coherent := by
  rw [searchAnew_eq]
  have hc : Coherent { s.clearResults.1 with scans := s.scans + 1 } := h.clearResults.congr rfl rfl
  exact hc.presentAll rfl keyword _

theorem search (keyword : String) (scope : SearchScope) : (s.search keyword scope).1.Coherent := by
  rcases s.search_cases keyword scope with ⟨-, he⟩ | ⟨-, -, -, node, he⟩ | ⟨-, -, he⟩
  · rw [he]
    exact h.clearResults
  · rw [he]
    exact h.next
  · rw [he]
    exact h.searchAnew _ scope

theorem changeScope (keyword : String) (scope : SearchScope) :
    (s.changeScope keyword scope).1.Coherent := by
  rcases s.changeScope_cases keyword scope with he | he
  · rw [he]
    exact h
  · rw [he]
    exact h.clearResults.search keyword scope

theorem calleeChoice (id : NodeId) : (s.calleeChoice id).1.Coherent := by
  rcases s.calleeChoice_cases id with he | he
  · rw [he]
    exact h
  · rw [he]
    exact h.clearResults

/-- A jump to candidates keeps coherence where no result is active. -/
theorem jumpToCandidates (hr : s.results = {}) (id : NodeId) (candidates : List NodeId) :
    (s.jumpToCandidates id candidates).1.Coherent := by
  obtain ⟨history, hv⟩ := s.visit_eq id
  unfold Session.jumpToCandidates
  rw [hv]
  have hs : Coherent { s with history } := h.congr rfl rfl
  exact hs.presentAll hr "" candidates

theorem jumpToCallee (id : NodeId) : (s.jumpToCallee id).1.Coherent := by
  rcases s.jumpToCallee_cases id with ⟨callee, candidates, -, he⟩ | ⟨-, he⟩
  · rw [he]
    exact h.clearResults.jumpToCandidates rfl id candidates
  · rw [he]
    exact h.calleeChoice id

theorem jumpToTargets : s.jumpToTargets.1.Coherent := by
  rcases s.jumpToTargets_cases with he | he
  · rw [he]
    exact h
  · rw [he]
    exact h.clearResults.presentAll rfl "" _

theorem jumpTo (ids : List NodeId) : (s.jumpTo ids).1.Coherent := by
  rcases s.jumpTo_cases ids with he | he
  · rw [he]
    exact h
  · rw [he]
    exact h.clearResults.presentAll rfl "" ids

theorem makeReady : s.makeReady.1.Coherent := by
  obtain ⟨targetOrder, history, he⟩ := s.makeReady_eq
  rw [he]
  exact h.congr rfl rfl

/-! ## Editing and expanding -/

theorem edit (e : Edit) : (s.operate (.edit e)).Coherent := by
  rcases s.operate_edit_cases e with he | ⟨affected, he⟩
  · rw [he]
    exact h
  · rw [he]
    exact h.withOutline (selected_make e.change s.outline affected)

/-- Every operation keeps a session coherent. -/
theorem operate (op : Operation) : (s.operate op).Coherent := by
  cases op with
  | search keyword scope => exact h.search keyword scope
  | changeScope keyword scope => exact h.changeScope keyword scope
  | clearResults => exact h.clearResults
  | next => exact h.next
  | previous => exact h.previous
  | calleeChoice node => exact h.calleeChoice node
  | jumpToCallee node => exact h.jumpToCallee node
  | makeReady => exact h.makeReady
  | jumpToTargets => exact h.jumpToTargets
  | jumpTo nodes => exact h.jumpTo nodes
  | remember node => exact h.congr rfl rfl
  | edit e => exact h.edit e
  | expandAll node => exact h.withOutline (Outline.selected_expandAll s.outline node)
  | collapseAll node => exact h.withOutline (Outline.selected_collapseAll s.outline node)
  | expandLoops node flag => exact h.withOutline (Outline.selected_expandLoops s.outline node flag)

theorem run (operations : List Operation) : (s.run operations).Coherent := by
  induction operations generalizing s with
  | nil => exact h
  | cons op operations ih => exact ih (h.operate op)

end Coherent

/-- A fresh session with nothing selected is coherent. -/
theorem coherent_fresh {o : Outline} (t : Tables) (h : ∀ n ∈ o.nodes, n.state.selected = false) :
    Coherent { outline := o, tables := t } where
  mem_selected_iff id := by rw [Outline.selected_eq_nil.2 h]
  placed := Or.inl rfl

/-- **The selected nodes are the active result**, after any operations on a session that starts with
nothing selected; the nodes of the result are in the outline, and the cursor is on one of them unless
the result is the empty one. -/
theorem run_highlight (o : Outline) (t : Tables) (h : ∀ n ∈ o.nodes, n.state.selected = false)
    (operations : List Operation) :
    let s := ({ outline := o, tables := t } : Session).run operations
    (∀ id, id ∈ s.outline.selected ↔ id ∈ s.results.nodes) ∧
    (∀ id ∈ s.results.nodes, id ∈ s.outline.ids) ∧
    (s.results = {} ∨ s.results.nodes ≠ [] ∧ s.results.cursor < s.results.nodes.length) := by
  intro s
  have hs : s.Coherent := (coherent_fresh t h).run operations
  refine ⟨hs.mem_selected_iff, fun id hid => ?_, ?_⟩
  · exact Outline.selected_subset_ids ((hs.mem_selected_iff id).2 hid)
  · rcases hs.placed with he | hlt
    · exact Or.inl he
    · exact Or.inr ⟨List.length_pos_iff.1 (Nat.zero_lt_of_lt hlt), hlt⟩

/-- The two loops, searched for, stepped through, judged and left for a node that is not there. -/
theorem run_highlight_pair :
    (∀ n ∈ Sample.pairOutline.nodes, n.state.selected = false) ∧
    let s := Sample.pairSession.run
      [.makeReady, .search "DO" .all, .next, .edit ⟨Sample.firstId, .judge (.judged "Kernel")⟩,
        .jumpToTargets, .previous, .jumpTo [⟨"c", by decide, by decide⟩]]
    (∀ id, id ∈ s.outline.selected ↔ id ∈ s.results.nodes) ∧
    (∀ id ∈ s.results.nodes, id ∈ s.outline.ids) ∧
    (s.results = {} ∨ s.results.nodes ≠ [] ∧ s.results.cursor < s.results.nodes.length) := by
  have h : ∀ n ∈ Sample.pairOutline.nodes, n.state.selected = false := by decide
  exact ⟨h, run_highlight Sample.pairOutline Sample.pairTables h _⟩

end LoopSurvey.Session
