import LoopSurvey.Proofs.Outline.Alike
import LoopSurvey.Proofs.Session.Operation
/-!
# What operations leave alone

Every operation but an edit leaves an outline that is alike: it opens, closes and selects nodes at most
(`alike_operate`, `alike_run`). The change of an edit only depends on which nodes of the outline are
listed (`Change.make_congr`), and made to alike outlines it gives alike outlines (`Outline.Alike.make`).
-/

namespace LoopSurvey

namespace Change

variable {o : Outline}

@[simp] theorem ids_make (c : Change) (o : Outline) (ids : List NodeId) : (c.make o ids).ids = o.ids := by
  cases c <;> simp [make]

/-- Which identifiers are listed beside those of the outline does not matter. -/
theorem make_congr (c : Change) {ids ids' : List NodeId}
    (h : ∀ id ∈ o.ids, (id ∈ ids ↔ id ∈ ids')) : c.make o ids = c.make o ids' := by
  cases c with
  | judge j => exact Outline.updateLabel_congr h (·.judge j)
  | setLevel level => exact Outline.updateLabel_congr h (·.withLevel level)
  | comment text => exact Outline.updateLabel_congr h (·.setComment text)
  | check checked => exact Outline.updateState_congr h fun s => { s with checked }
  | setOpened opened => exact Outline.updateState_congr h fun s => { s with opened }

end Change

namespace Outline

variable {o o' : Outline} (h : o.Alike o')
include h

theorem Alike.updateLabel (ids : List NodeId) (f : Label → Label) :
    (o.updateLabel ids f).Alike (o'.updateLabel ids f) :=
  h.of_map rfl rfl fun _ => rfl

theorem Alike.setChecked (ids : List NodeId) (b : Bool) :
    (o.setChecked ids b).Alike (o'.setChecked ids b) :=
  h.of_map rfl rfl fun n => by
    by_cases hn : n.id ∈ ids <;> simp [Node.unshown, hn]

/-- The same change made to the same nodes of alike outlines gives alike outlines. -/
theorem Alike.make (c : Change) (ids : List NodeId) : (c.make o ids).Alike (c.make o' ids) := by
  cases c with
  | judge j => exact h.updateLabel ids _
  | setLevel level => exact h.updateLabel ids _
  | comment text => exact h.updateLabel ids _
  | check checked => exact h.setChecked ids checked
  | setOpened opened =>
    exact (alike_setOpened o ids opened).symm.trans (h.trans (alike_setOpened o' ids opened))

end Outline

namespace Session

/-- Whether an operation is an edit. -/
def Operation.isEdit : Operation → Bool
  | .edit _ => true
  | _ => false

variable (s : Session)

theorem alike_clearResults : s.outline.Alike s.clearResults.1.outline :=
  Outline.alike_setSelected s.outline s.results.nodes false

theorem alike_present (keyword : String) (ancestors hits : List NodeId) :
    s.outline.Alike (s.present keyword ancestors hits).1.outline := by
  rcases s.present_cases keyword ancestors hits with ⟨-, he⟩ | ⟨-, he⟩
  · rw [he]
    exact Outline.Alike.refl s.outline
  · rw [he]
    exact (Outline.alike_setOpened s.outline _ true).trans (Outline.alike_setSelected _ _ true)

/-- Dropping the result and presenting a list only changes what is shown. -/
theorem alike_presentAnew (keyword : String) (hits : List NodeId) :
    s.outline.Alike (s.clearResults.1.presentAll keyword hits).1.outline :=
  s.alike_clearResults.trans (s.clearResults.1.alike_present keyword _ hits)

theorem alike_searchAnew (keyword : String) (scope : SearchScope) :
    s.outline.Alike (s.searchAnew keyword scope).1.outline := by
  rw [searchAnew_eq]
  exact s.alike_clearResults.trans
    (alike_present { s.clearResults.1 with scans := s.scans + 1 } _ _ _)

theorem alike_search (keyword : String) (scope : SearchScope) :
    s.outline.Alike (s.search keyword scope).1.outline := by
  rcases s.search_cases keyword scope with ⟨-, he⟩ | ⟨-, -, -, node, he⟩ | ⟨-, -, he⟩
  · rw [he]
    exact s.alike_clearResults
  · rw [he]
    exact Outline.Alike.refl s.outline
  · rw [he]
    exact s.alike_searchAnew _ scope

theorem alike_calleeChoice (id : NodeId) : s.outline.Alike (s.calleeChoice id).1.outline := by
  rcases s.calleeChoice_cases id with he | he
  · rw [he]
    exact Outline.Alike.refl s.outline
  · rw [he]
    exact s.alike_clearResults

theorem alike_jumpToCandidates (id : NodeId) (candidates : List NodeId) :
    s.outline.Alike (s.jumpToCandidates id candidates).1.outline := by
  obtain ⟨history, hv⟩ := s.visit_eq id
  unfold jumpToCandidates
  rw [hv]
  exact alike_present { s with history } "" _ candidates

theorem alike_changeScope (keyword : String) (scope : SearchScope) :
    s.outline.Alike (s.changeScope keyword scope).1.outline := by
  rcases s.changeScope_cases keyword scope with he | he
  · rw [he]
    exact Outline.Alike.refl s.outline
  · rw [he]
    exact s.alike_clearResults.trans (s.clearResults.1.alike_search keyword scope)

theorem alike_jumpToCallee (id : NodeId) : s.outline.Alike (s.jumpToCallee id).1.outline := by
  rcases s.jumpToCallee_cases id with ⟨callee, candidates, -, he⟩ | ⟨-, he⟩
  · rw [he]
    exact s.alike_clearResults.trans (s.clearResults.1.alike_jumpToCandidates id candidates)
  · rw [he]
    exact s.alike_calleeChoice id

theorem alike_jumpToTargets : s.outline.Alike s.jumpToTargets.1.outline := by
  rcases s.jumpToTargets_cases with he | he
  · rw [he]
    exact Outline.Alike.refl s.outline
  · rw [he]
    exact s.alike_presentAnew "" s.targetOrder

theorem alike_jumpTo (ids : List NodeId) : s.outline.Alike (s.jumpTo ids).1.outline := by
  rcases s.jumpTo_cases ids with he | he
  · rw [he]
    exact Outline.Alike.refl s.outline
  · rw [he]
    exact s.alike_presentAnew "" ids

theorem alike_makeReady : s.outline.Alike s.makeReady.1.outline := by
  obtain ⟨targetOrder, history, he⟩ := s.makeReady_eq
  rw [he]
  exact Outline.Alike.refl s.outline

/-- Every operation but an edit only changes what is shown. -/
theorem alike_operate {op : Operation} (hop : op.isEdit = false) :
    s.outline.Alike (s.operate op).outline := by
  cases op with
  | search keyword scope => exact s.alike_search keyword scope
  | changeScope keyword scope => exact s.alike_changeScope keyword scope
  | clearResults => exact s.alike_clearResults
  | next => exact Outline.Alike.refl s.outline
  | previous => exact Outline.Alike.refl s.outline
  | calleeChoice node => exact s.alike_calleeChoice node
  | jumpToCallee node => exact s.alike_jumpToCallee node
  | makeReady => exact s.alike_makeReady
  | jumpToTargets => exact s.alike_jumpToTargets
  | jumpTo nodes => exact s.alike_jumpTo nodes
  | remember node => exact Outline.Alike.refl s.outline
  | edit e => cases hop
  | expandAll node => exact Outline.alike_expandAll s.outline node
  | collapseAll node => exact Outline.alike_collapseAll s.outline node
  | expandLoops node flag => exact Outline.alike_expandLoops s.outline node flag

/-- Operations without an edit only change what is shown. -/
theorem alike_run {operations : List Operation} (h : ∀ op ∈ operations, op.isEdit = false) :
    s.outline.Alike (s.run operations).outline := by
  induction operations generalizing s with
  | nil => exact Outline.Alike.refl s.outline
  | cons op operations ih =>
    have hop : op.isEdit = false := h op List.mem_cons_self
    exact (s.alike_operate hop).trans (ih (s.operate op) fun op' h' => h op' (List.mem_cons_of_mem _ h'))

end Session

end LoopSurvey
