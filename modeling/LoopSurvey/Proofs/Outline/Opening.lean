import Mathlib.Data.List.Induction
import LoopSurvey.Proofs.Outline.Visibility
/-!
# Opened nodes

The opened nodes of an outline (`Outline.opened`), the nodes whose flag differs between two outlines
(`Outline.flipped`), and what opening or closing listed nodes does to them: it decides about those that are there
(`mem_opened_setOpened`) and changes nothing else (`map_closed_setOpened`). The number that such a change tells is that
of the nodes that change (`changeOpened_snd`), and it is the same if the nodes are taken one after the other and only
those are counted that were not so yet when their turn came (`changeEach_eq`).
-/

namespace LoopSurvey

/-- The node, closed. -/
def Node.closed (n : Node) : Node := { n with state := { n.state with opened := false } }

namespace Outline

/-- The identifiers of the opened nodes in pre-order. -/
def opened (o : Outline) : List NodeId := (o.nodes.filter (·.state.opened)).map Node.id

/-- The identifiers of the nodes that are opened in one of two outlines and closed in the other. -/
def flipped (o o' : Outline) : List NodeId :=
  o.ids.filter fun id => decide (id ∈ o.opened) != decide (id ∈ o'.opened)

variable {o o' : Outline} {ids ids' : List NodeId} {id : NodeId} {b : Bool}

theorem mem_opened : id ∈ o.opened ↔ ∃ n ∈ o.nodes, n.state.opened = true ∧ n.id = id := by
  simp only [opened, List.mem_map, List.mem_filter, and_assoc]

theorem mem_opened_of_mem {n : Node} (h : n ∈ o.nodes) : n.id ∈ o.opened ↔ n.state.opened = true := by
  rw [mem_opened]
  refine ⟨fun ⟨m, hm, hopened, hid⟩ => ?_, fun hopened => ⟨n, h, hopened, rfl⟩⟩
  rwa [← eq_of_id_eq hm h hid]

theorem opened_subset_ids (h : id ∈ o.opened) : id ∈ o.ids := by
  obtain ⟨n, hn, -, rfl⟩ := mem_opened.1 h
  exact mem_ids.2 ⟨n, hn, rfl⟩

/-! ## Opening and closing listed nodes -/

theorem forest_setOpened (o : Outline) (ids : List NodeId) (b : Bool) :
    (o.setOpened ids b).forest = o.forest.map fun n =>
      { n with state := if n.id ∈ ids then { n.state with opened := b } else n.state } := rfl

theorem parentsOf_setOpened (o : Outline) (ids : List NodeId) (b : Bool) (id : NodeId) :
    (o.setOpened ids b).parentsOf id = o.parentsOf id :=
  parentsOf_of_map (o.forest_setOpened ids b) (fun _ => rfl) id

theorem descendantsOf_setOpened (o : Outline) (ids : List NodeId) (b : Bool) (id : NodeId) :
    (o.setOpened ids b).descendantsOf id = o.descendantsOf id :=
  descendantsOf_of_map (o.forest_setOpened ids b) (fun _ => rfl) id

/-- Opening or closing listed nodes decides about those that are there, and about no other. -/
theorem mem_opened_setOpened :
    id ∈ (o.setOpened ids b).opened ↔ if id ∈ ids then b = true ∧ id ∈ o.ids else id ∈ o.opened := by
  rw [mem_opened, mem_opened, setOpened]
  exact exists_mem_updateState_iff NodeState.opened (by exact fun _ => rfl)

theorem mem_opened_open : id ∈ (o.setOpened ids true).opened ↔ id ∈ o.opened ∨ id ∈ ids ∧ id ∈ o.ids := by
  rw [mem_opened_setOpened]
  by_cases h : id ∈ ids
  · simp only [h, if_true, true_and]
    exact ⟨Or.inr, fun ho => ho.elim opened_subset_ids fun h => h⟩
  · simp [h]

/-- Nothing else about any node changes. -/
theorem map_closed_setOpened (o : Outline) (ids : List NodeId) (b : Bool) :
    (o.setOpened ids b).forest.map Node.closed = o.forest.map Node.closed := by
  rw [forest_setOpened, Forest.map_map]
  refine Forest.map_congr fun n _ => ?_
  by_cases h : n.id ∈ ids <;> simp [Node.closed, h]

/-- Nodes that are opened or closed again stay as they are. -/
theorem setOpened_setOpened (o : Outline) (ids ids' : List NodeId) (b : Bool) :
    (o.setOpened ids b).setOpened ids' b = o.setOpened (ids ++ ids') b := by
  refine ext_forest ?_
  simp only [setOpened, updateState, mapState, Forest.map_map]
  refine Forest.map_congr fun n _ => ?_
  by_cases h : n.id ∈ ids <;> by_cases h' : n.id ∈ ids' <;> simp [h, h']

theorem setOpened_self (o : Outline) (ids : List NodeId) (b : Bool) :
    (o.setOpened ids b).setOpened ids b = o.setOpened ids b := by
  rw [setOpened_setOpened]
  exact updateState_congr (fun id _ => by rw [List.mem_append, or_self]) _

/-! ## What is visible -/

theorem isVisible_iff_opened : o.isVisible id = true ↔ id ∈ o.ids ∧ ∀ a ∈ o.parentsOf id, a ∈ o.opened := by
  rw [isVisible_iff]
  refine and_congr_right fun _ => ⟨fun h a ha => ?_, fun h n hn hparent => (mem_opened_of_mem hn).1 (h n.id hparent)⟩
  obtain ⟨n, hn, rfl⟩ := mem_ids.1 (mem_ids_of_mem_parentsOf ha)
  exact (mem_opened_of_mem hn).2 (h n hn ha)

/-- What is opened or closed elsewhere than above a node does not matter for it. -/
theorem isVisible_setOpened_of_above (h : ∀ a ∈ o.parentsOf id, a ∉ ids) :
    (o.setOpened ids b).isVisible id = o.isVisible id := by
  have hopened : ∀ a ∈ o.parentsOf id, (a ∈ (o.setOpened ids b).opened ↔ a ∈ o.opened) := fun a ha => by
    rw [mem_opened_setOpened, if_neg (h a ha)]
  rw [Bool.eq_iff_iff, isVisible_iff_opened, isVisible_iff_opened, ids_setOpened, parentsOf_setOpened]
  exact and_congr_right fun _ => forall₂_congr hopened

/-! ## Counting what changes -/

/-- Of the listed nodes those change that were not so before. -/
theorem changeOpened_snd (o : Outline) (ids : List NodeId) (b : Bool) :
    (o.changeOpened ids b).2 = (o.flipped (o.changeOpened ids b).1).length := by
  rw [flipped, ← List.countP_eq_length_filter, Outline.ids, List.countP_map]
  refine List.countP_congr fun n hn => ?_
  have hafter : n.id ∈ (o.setOpened ids b).opened ↔ if n.id ∈ ids then b = true else n.state.opened = true := by
    rw [mem_opened_setOpened, and_iff_left (mem_ids.2 ⟨n, hn, rfl⟩), mem_opened_of_mem hn]
  simp only [Function.comp_apply, changeOpened, hafter, mem_opened_of_mem hn]
  by_cases h : n.id ∈ ids <;> simp [h]

theorem changeOpened_congr (h : ∀ id ∈ o.ids, (id ∈ ids ↔ id ∈ ids')) :
    o.changeOpened ids b = o.changeOpened ids' b := by
  have hstate : o.setOpened ids b = o.setOpened ids' b := updateState_congr h _
  refine Prod.ext hstate (List.countP_congr fun n hn => ?_)
  rw [decide_eq_decide.2 (h n.id (mem_ids.2 ⟨n, hn, rfl⟩))]

theorem changeOpened_nil (o : Outline) (b : Bool) : o.changeOpened [] b = (o, 0) :=
  Prod.ext (setOpened_nil o b) (List.countP_eq_zero.2 fun n _ => by simp)

theorem changeOpened_of_not_mem (h : id ∉ o.ids) : o.changeOpened [id] b = (o, 0) := by
  rw [← o.changeOpened_nil b]
  refine changeOpened_congr fun x hx => ?_
  have hne : x ≠ id := fun he => h (he ▸ hx)
  simp [hne]

/-- What has been opened or closed is not so once more. -/
theorem changeOpened_setOpened (o : Outline) (ids : List NodeId) (b : Bool) :
    (o.setOpened ids b).changeOpened ids b = (o.setOpened ids b, 0) := by
  have hstate : ((o.setOpened ids b).changeOpened ids b).1 = o.setOpened ids b := setOpened_self o ids b
  refine Prod.ext hstate ?_
  rw [changeOpened_snd, hstate, List.length_eq_zero_iff, flipped, List.filter_eq_nil_iff]
  intro id _
  simp

/-- Two lists of nodes, one after the other. -/
theorem changeOpened_append (o : Outline) (ids ids' : List NodeId) (b : Bool) :
    o.changeOpened (ids ++ ids') b =
      (((o.changeOpened ids b).1.changeOpened ids' b).1,
        (o.changeOpened ids b).2 + ((o.changeOpened ids b).1.changeOpened ids' b).2) := by
  refine Prod.ext (setOpened_setOpened o ids ids' b).symm ?_
  simp only [changeOpened, setOpened, updateState, nodes_mapState, List.countP_map]
  -- a node in both lists counts for the first one alone
  induction o.nodes with
  | nil => rfl
  | cons n nodes ih =>
    simp only [List.countP_cons, ih, Function.comp_apply]
    by_cases h : n.id ∈ ids <;> by_cases h' : n.id ∈ ids' <;> by_cases hb : n.state.opened = b <;> simp [h, h', hb] <;>
      omega

/-- Opening or closing a node with all below it is done to it and its descendants. -/
theorem changeSubtree_eq_changeOpened (o : Outline) (id : NodeId) (b : Bool) :
    o.changeSubtree id b = o.changeOpened (id :: o.descendantsOf id) b := by
  unfold changeSubtree descendantsOf
  split
  · next hnone =>
    rw [hnone]
    exact (changeOpened_of_not_mem (locate?_eq_none_iff.1 hnone)).symm
  · next p hp =>
    obtain ⟨-, rfl⟩ := locate?_eq_some_iff.1 hp
    rw [hp]
    rfl

/-- Of a node and its descendants those change that were not so before. -/
theorem changeSubtree_snd (o : Outline) (id : NodeId) (b : Bool) :
    (o.changeSubtree id b).2 = (o.flipped (o.changeSubtree id b).1).length := by
  rw [changeSubtree_eq_changeOpened]
  exact o.changeOpened_snd _ b

/-- Opens or closes the listed nodes one after the other, and counts how often that changes a node. -/
def changeEach (o : Outline) (ids : List NodeId) (b : Bool) : Outline × Nat :=
  ids.foldl (fun r id => ((r.1.changeOpened [id] b).1, r.2 + (r.1.changeOpened [id] b).2)) (o, 0)

/-- One after the other the nodes come to the same as all at once. -/
theorem changeEach_eq (o : Outline) (ids : List NodeId) (b : Bool) : o.changeEach ids b = o.changeOpened ids b := by
  induction ids using List.reverseRecOn with
  | nil => exact (changeOpened_nil o b).symm
  | append_singleton ids id ih =>
    rw [changeOpened_append, ← ih]
    exact List.foldl_concat _ _ _ _

end Outline

end LoopSurvey
