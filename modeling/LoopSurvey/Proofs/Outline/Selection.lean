import LoopSurvey.Proofs.Outline.Mapping
/-!
# Selected nodes

The selected nodes of an outline, in pre-order (`Outline.selected`), and what each change of an outline
does to them: selecting or deselecting listed nodes adds or removes those that are there
(`mem_selected_setSelected`), and every other change leaves them alone.
-/

namespace LoopSurvey.Outline

/-- The identifiers of the selected nodes in pre-order. -/
def selected (o : Outline) : List NodeId := (o.nodes.filter (·.state.selected)).map Node.id

variable {o o' : Outline}

theorem mem_selected {id : NodeId} :
    id ∈ o.selected ↔ ∃ n ∈ o.nodes, n.state.selected = true ∧ n.id = id := by
  simp only [selected, List.mem_map, List.mem_filter, and_assoc]

theorem selected_subset_ids {id : NodeId} (h : id ∈ o.selected) : id ∈ o.ids := by
  obtain ⟨n, hn, -, rfl⟩ := mem_selected.1 h
  exact mem_ids.2 ⟨n, hn, rfl⟩

theorem selected_eq_nil : o.selected = [] ↔ ∀ n ∈ o.nodes, n.state.selected = false := by
  simp [selected]

/-- A change that keeps identifiers and selection keeps the selected nodes. -/
theorem selected_of_map {f : Node → Node} (h : o'.forest = o.forest.map f)
    (hid : ∀ n, (f n).id = n.id) (hs : ∀ n, (f n).state.selected = n.state.selected) :
    o'.selected = o.selected := by
  unfold selected
  rw [nodes_of_map h, List.filter_map, List.map_map]
  simp only [Function.comp_def, hid, hs]

@[simp] theorem selected_mapLabel (o : Outline) (f : Node → Label) :
    (o.mapLabel f).selected = o.selected :=
  selected_of_map rfl (fun _ => rfl) fun _ => rfl

@[simp] theorem selected_updateLabel (o : Outline) (ids : List NodeId) (f : Label → Label) :
    (o.updateLabel ids f).selected = o.selected :=
  selected_mapLabel o _

@[simp] theorem selected_setOpened (o : Outline) (ids : List NodeId) (b : Bool) :
    (o.setOpened ids b).selected = o.selected :=
  selected_of_map rfl (fun _ => rfl) fun n => by dsimp only; split <;> rfl

@[simp] theorem selected_setChecked (o : Outline) (ids : List NodeId) (b : Bool) :
    (o.setChecked ids b).selected = o.selected :=
  selected_of_map rfl (fun _ => rfl) fun n => by dsimp only; split <;> rfl

@[simp] theorem selected_expandAll (o : Outline) (id : NodeId) :
    (o.expandAll id).1.selected = o.selected := by
  obtain ⟨ids, h⟩ := changeSubtree_eq o id true
  rw [expandAll, h, selected_setOpened]

@[simp] theorem selected_collapseAll (o : Outline) (id : NodeId) :
    (o.collapseAll id).1.selected = o.selected := by
  obtain ⟨ids, h⟩ := changeSubtree_eq o id false
  rw [collapseAll, h, selected_setOpened]

@[simp] theorem selected_expandLoops (o : Outline) (id : NodeId) (flag : LoopFlag) :
    (o.expandLoops id flag).1.selected = o.selected := by
  obtain ⟨ids, h⟩ := expandLoops_eq o id flag
  rw [h, selected_setOpened]

/-- Selecting or deselecting listed nodes decides about those that are there, and about no other. -/
theorem mem_selected_setSelected {ids : List NodeId} {b : Bool} {id : NodeId} :
    id ∈ (o.setSelected ids b).selected ↔
      if id ∈ ids then b = true ∧ id ∈ o.ids else id ∈ o.selected := by
  rw [mem_selected, mem_selected, setSelected]
  exact exists_mem_updateState_iff NodeState.selected (by exact fun _ => rfl)

theorem mem_selected_deselect {ids : List NodeId} {id : NodeId} :
    id ∈ (o.setSelected ids false).selected ↔ id ∈ o.selected ∧ id ∉ ids := by
  rw [mem_selected_setSelected]
  by_cases h : id ∈ ids <;> simp [h]

theorem mem_selected_select {ids : List NodeId} {id : NodeId} :
    id ∈ (o.setSelected ids true).selected ↔ id ∈ o.selected ∨ id ∈ ids ∧ id ∈ o.ids := by
  rw [mem_selected_setSelected]
  by_cases h : id ∈ ids
  · simp only [h, if_true, true_and]
    exact ⟨Or.inr, fun hs => hs.elim selected_subset_ids fun h => h⟩
  · simp [h]

end LoopSurvey.Outline
