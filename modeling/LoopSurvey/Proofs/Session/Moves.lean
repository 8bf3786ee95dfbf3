import Mathlib.Logic.Relation
import LoopSurvey.Proofs.Outline.Mapping
import LoopSurvey.Proofs.Session.Operation
/-!
# What operations are made of

Whatever is done with a session comes down to a few moves (`Session.Move`): the result is dropped, stepped through
or presented, a search is counted, a node is remembered, the targets are put in order, or a change is made to
nodes of the outline. Every operation is some moves (`moves_operate`), and so is every run (`moves_run`). So what
each move keeps holds along a run (`Moves.keeps`). The same goes for sessions in which jumps to any candidates are
taken between the operations (`Session.proceed`, `moves_proceed`).
-/

namespace LoopSurvey.Session

/-- One move of a session. -/
inductive Move (s : Session) : Session → Prop
  | clear : Move s s.clearResults.1
  | advance : Move s { s with results := s.results.advance }
  | retreat : Move s { s with results := s.results.retreat }
  | scan : Move s { s with scans := s.scans + 1 }
  | present (keyword : String) (hits : List NodeId) : Move s (s.presentAll keyword hits).1
  | visit (id : NodeId) : Move s (s.visit id)
  /-- A node goes on the history, in the outline or not. -/
  | remember (id : NodeId) : Move s { s with history := s.history.push id }
  | order : Move s s.orderTargets
  | change (c : Change) (ids : List NodeId) : Move s (s.withOutline (c.make s.outline ids))

/-- Moves, one after the other. -/
abbrev Moves : Session → Session → Prop := Relation.ReflTransGen Move

/-- What each move keeps is kept by moves. -/
theorem Moves.keeps {P : Session → Prop} (hmove : ∀ {s s'}, Move s s' → P s → P s') {s s' : Session}
    (h : Moves s s') (hs : P s) : P s' := by
  induction h with
  | refl => exact hs
  | tail _ hmoved ih => exact hmove hmoved ih

variable (s : Session)

theorem moves_searchAnew (keyword : String) (scope : SearchScope) : Moves s (s.searchAnew keyword scope).1 := by
  rw [searchAnew_eq]
  exact ((Relation.ReflTransGen.single Move.clear).tail Move.scan).tail (Move.present keyword _)

theorem moves_search (keyword : String) (scope : SearchScope) : Moves s (s.search keyword scope).1 := by
  rcases s.search_cases keyword scope with ⟨-, he⟩ | ⟨-, -, -, node, he⟩ | ⟨-, -, he⟩ <;> rw [he]
  · exact .single .clear
  · exact .single .advance
  · exact s.moves_searchAnew _ scope

theorem moves_changeScope (keyword : String) (scope : SearchScope) : Moves s (s.changeScope keyword scope).1 := by
  rcases s.changeScope_cases keyword scope with he | he <;> rw [he]
  exact .head .clear (s.clearResults.1.moves_search keyword scope)

theorem moves_calleeChoice (id : NodeId) : Moves s (s.calleeChoice id).1 := by
  rcases s.calleeChoice_cases id with he | he <;> rw [he]
  exact .single .clear

theorem moves_jumpToCandidates (id : NodeId) (candidates : List NodeId) :
    Moves s (s.jumpToCandidates id candidates).1 :=
  .tail (.single (.visit id)) (.present "" candidates)

theorem moves_jumpToCallee (id : NodeId) : Moves s (s.jumpToCallee id).1 := by
  rcases s.jumpToCallee_cases id with ⟨callee, candidates, -, he⟩ | ⟨-, he⟩ <;> rw [he]
  · exact .head .clear (s.clearResults.1.moves_jumpToCandidates id candidates)
  · exact s.moves_calleeChoice id

/-- Dropping the result and presenting a list. -/
theorem moves_presentAnew (keyword : String) (hits : List NodeId) :
    Moves s (s.clearResults.1.presentAll keyword hits).1 :=
  .tail (.single .clear) (.present keyword hits)

theorem moves_jumpToTargets : Moves s s.jumpToTargets.1 := by
  rcases s.jumpToTargets_cases with he | he <;> rw [he]
  exact s.moves_presentAnew "" s.targetOrder

theorem moves_jumpTo (ids : List NodeId) : Moves s (s.jumpTo ids).1 := by
  rcases s.jumpTo_cases ids with he | he <;> rw [he]
  exact s.moves_presentAnew "" ids

theorem moves_makeReady : Moves s s.makeReady.1 := by
  unfold makeReady
  dsimp only
  split
  · exact .single .order
  · next id _ => exact .tail (.single .order) (.remember id)

theorem moves_edit (e : Edit) : Moves s (s.operate (.edit e)) := by
  rcases s.operate_edit_cases e with he | ⟨affected, he⟩
  · rw [he]
  · rw [he]
    exact .single (.change e.change affected)

/-- Opening and closing nodes is a change of them. -/
theorem moves_setOpened {o : Outline} {opened : Bool} (h : ∃ ids, o = s.outline.setOpened ids opened) :
    Moves s (s.withOutline o) := by
  obtain ⟨ids, rfl⟩ := h
  exact .single (.change (.setOpened opened) ids)

/-- Every operation is some moves. -/
theorem moves_operate (op : Operation) : Moves s (s.operate op) := by
  cases op with
  | search keyword scope => exact s.moves_search keyword scope
  | changeScope keyword scope => exact s.moves_changeScope keyword scope
  | clearResults => exact .single .clear
  | next => exact .single .advance
  | previous => exact .single .retreat
  | calleeChoice node => exact s.moves_calleeChoice node
  | jumpToCallee node => exact s.moves_jumpToCallee node
  | makeReady => exact s.moves_makeReady
  | jumpToTargets => exact s.moves_jumpToTargets
  | jumpTo nodes => exact s.moves_jumpTo nodes
  | remember node => exact .single (.remember node)
  | edit e => exact s.moves_edit e
  | expandAll node => exact s.moves_setOpened (s.outline.changeSubtree_eq node true)
  | collapseAll node => exact s.moves_setOpened (s.outline.changeSubtree_eq node false)
  | expandLoops node flag => exact s.moves_setOpened (s.outline.expandLoops_eq node flag)

/-- Every run is some moves. -/
theorem moves_run (operations : List Operation) : Moves s (s.run operations) := by
  induction operations generalizing s with
  | nil => exact .refl
  | cons op operations ih => exact (s.moves_operate op).trans (ih (s.operate op))

/-! ## Operations and jumps that were asked about -/

/-- What may be done with a session next. -/
inductive Step
  | operate (op : Operation)
  /-- The jump from a node to candidates of its callee, after it has been asked about. -/
  | confirm (node : NodeId) (candidates : List NodeId)

/-- The session after a step. -/
def take (s : Session) : Step → Session
  | .operate op => s.operate op
  | .confirm node candidates => (s.jumpToCandidates node candidates).1

/-- The session after steps. -/
def proceed (s : Session) (steps : List Step) : Session := steps.foldl take s

theorem moves_take (step : Step) : Moves s (s.take step) := by
  cases step with
  | operate op => exact s.moves_operate op
  | confirm node candidates => exact s.moves_jumpToCandidates node candidates

/-- All that is done with a session is some moves. -/
theorem moves_proceed (steps : List Step) : Moves s (s.proceed steps) := by
  induction steps generalizing s with
  | nil => exact .refl
  | cons step steps ih => exact (s.moves_take step).trans (ih (s.take step))

end LoopSurvey.Session
