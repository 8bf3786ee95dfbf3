import LoopSurvey.Proofs.Outline.Places
import LoopSurvey.Outline.Rows
/-!
# Rows and visibility

The rows come from a walk that leaves out what is below a closed node (`Forest.rowsAt`), and a node is
visible if all its ancestors are opened (`Place.isVisible`). Below a closed node no place is visible
(`Forest.filter_isVisible_eq_nil`), so the walk meets the visible places, each with its depth
(`Forest.rowsAt_eq`), and the rows of an outline are its visible nodes in pre-order
(`Outline.rows_eq_filter_ids`).
-/

namespace LoopSurvey

/-- The row of a place. -/
def Place.row (p : Place Node) : Row := ⟨p.id, p.depth⟩

namespace Forest

/-! ## The walk -/

/-- Below a closed node nothing is visible. -/
theorem filter_isVisible_eq_nil (above : List Node) (t : Forest Node)
    (h : above.all (·.state.opened) = false) :
    (t.placesBelow above).filter Place.isVisible = [] := by
  rw [List.filter_eq_nil_iff]
  intro p hp hvisible
  obtain ⟨n, hn, hclosed⟩ := List.all_eq_false.1 h
  exact hclosed (List.all_eq_true.1 hvisible n ((suffix_above hp).subset hn))

/-- Below opened nodes the walk meets the visible places. -/
theorem rowsAt_eq (above : List Node) (t : Forest Node) (h : above.all (·.state.opened) = true) :
    t.rowsAt above.length = ((t.placesBelow above).filter Place.isVisible).map Place.row := by
  induction t generalizing above with
  | nil => rfl
  | cons n children rest ihc ihr =>
    have hroot : Place.isVisible ⟨n, above, children⟩ = true := h
    have hbelow : (if n.state.opened then children.rowsAt (above.length + 1) else []) =
        ((children.placesBelow (n :: above)).filter Place.isVisible).map Place.row := by
      cases ho : n.state.opened with
      | true => exact ihc (n :: above) (by rw [List.all_cons, ho, h]; rfl)
      | false =>
        rw [filter_isVisible_eq_nil (n :: above) children (by rw [List.all_cons, ho]; rfl)]
        rfl
    rw [rowsAt, hbelow, ihr above h, placesBelow, List.filter_cons_of_pos hroot, List.map_cons,
      List.filter_append, List.map_append]
    rfl

end Forest

namespace Outline

variable {o o' : Outline} {p : Place Node} {id : NodeId}

/-! ## What is visible -/

theorem isVisible_of_mem (h : p ∈ o.places) : o.isVisible p.id = p.isVisible := by
  rw [isVisible, locate?_of_mem h]
  rfl

/-- An ancestor of a node of the outline is a node of the outline. -/
theorem mem_nodes_of_mem_above (h : p ∈ o.places) {n : Node} (hn : n ∈ p.above) : n ∈ o.nodes := by
  rcases Forest.mem_above_cases h hn with hnil | ⟨q, hq, rfl, -⟩
  · cases hnil
  · exact map_node_places o ▸ List.mem_map_of_mem hq

/-- A node is visible if it is there and each of its ancestors is opened. -/
theorem isVisible_iff : o.isVisible id = true ↔
    id ∈ o.ids ∧ ∀ n ∈ o.nodes, n.id ∈ o.parentsOf id → n.state.opened = true := by
  constructor
  · intro h
    obtain ⟨p, hp, hvisible⟩ := (Option.any_eq_true _ _).1 h
    obtain ⟨hmem, rfl⟩ := locate?_eq_some_iff.1 hp
    refine ⟨mem_ids_iff_places.2 ⟨p, hmem, rfl⟩, fun n hn hparent => ?_⟩
    rw [parentsOf_of_mem hmem] at hparent
    obtain ⟨a, ha, hid⟩ := List.mem_map.1 hparent
    rw [← eq_of_id_eq (mem_nodes_of_mem_above hmem ha) hn hid]
    exact List.all_eq_true.1 hvisible a ha
  · rintro ⟨hmem, hopened⟩
    obtain ⟨p, hp, rfl⟩ := mem_ids_iff_places.1 hmem
    rw [isVisible_of_mem hp, Place.isVisible, List.all_eq_true]
    intro a ha
    refine hopened a (mem_nodes_of_mem_above hp ha) ?_
    rw [parentsOf_of_mem hp]
    exact List.mem_map_of_mem ha

/-! ## Changes of what is opened -/

/-- A node stays or becomes visible where all its ancestors are opened by a change. -/
theorem isVisible_of_map {f : Node → Node} (h : o'.forest = o.forest.map f) (hf : ∀ n, (f n).id = n.id)
    (hid : id ∈ o.ids) (hopened : ∀ n ∈ o.nodes, n.id ∈ o.parentsOf id → (f n).state.opened = true) :
    o'.isVisible id = true := by
  refine isVisible_iff.2 ⟨ids_of_map h hf ▸ hid, fun n' hn' hparent => ?_⟩
  rw [nodes_of_map h] at hn'
  obtain ⟨n, hn, rfl⟩ := List.mem_map.1 hn'
  rw [hf, parentsOf_of_map h hf] at hparent
  exact hopened n hn hparent

/-- Visible nodes stay visible where no opened node is closed. -/
theorem isVisible_mono {f : Node → Node} (h : o'.forest = o.forest.map f) (hf : ∀ n, (f n).id = n.id)
    (hopened : ∀ n, n.state.opened = true → (f n).state.opened = true) (hid : o.isVisible id = true) :
    o'.isVisible id = true := by
  obtain ⟨hmem, hall⟩ := isVisible_iff.1 hid
  exact isVisible_of_map h hf hmem fun n hn hparent => hopened n (hall n hn hparent)

theorem isVisible_setSelected {ids : List NodeId} {b : Bool} (h : o.isVisible id = true) :
    (o.setSelected ids b).isVisible id = true := by
  refine isVisible_mono rfl (fun n => rfl) (fun n hn => ?_) h
  dsimp only
  split
  · exact hn
  · exact hn

/-- Opening what is closed among the ancestors of a node makes it visible. -/
theorem isVisible_setOpened {ids : List NodeId} (hid : id ∈ o.ids)
    (h : ∀ n ∈ o.nodes, n.id ∈ o.parentsOf id → n.state.opened = false → n.id ∈ ids) :
    (o.setOpened ids true).isVisible id = true := by
  refine isVisible_of_map rfl (fun n => rfl) hid fun n hn hparent => ?_
  dsimp only
  cases ho : n.state.opened with
  | false => rw [if_pos (h n hn hparent ho)]
  | true =>
    split
    · rfl
    · exact ho

/-! ## The rows of an outline -/

/-- The rows are those of the visible places. -/
theorem rows_eq_map_row (o : Outline) : o.rows = (o.places.filter Place.isVisible).map Place.row :=
  o.forest.rowsAt_eq [] rfl

/-- After a change that keeps identifiers, the rows are those of the places whose nodes are visible then. -/
theorem rows_of_map {f : Node → Node} (h : o'.forest = o.forest.map f) (hf : ∀ n, (f n).id = n.id) :
    o'.rows = (o.places.filter fun q => o'.isVisible q.id).map Place.row := by
  have hplaces : o'.places = o.places.map (Place.map f) := by
    rw [places, h]
    exact Forest.places_map f o.forest
  have hid : ∀ q : Place Node, (q.map f).id = q.id := fun q => hf q.node
  have hrow : ∀ q : Place Node, (q.map f).row = q.row := fun q => by
    rw [Place.row, Place.row, hid, Place.depth, Place.map, List.length_map]
    rfl
  rw [rows_eq_map_row, hplaces, List.filter_map, List.map_map]
  rw [List.filter_congr fun q hq => ?visible]
  · exact List.map_congr_left fun q _ => hrow q
  case visible =>
    have hmem : q.map f ∈ o'.places := hplaces ▸ List.mem_map_of_mem hq
    rw [Function.comp_apply, ← isVisible_of_mem hmem, hid]

/-- A node has a row if it is visible. -/
theorem mem_rows_iff : (∃ row ∈ o.rows, row.id = id) ↔ o.isVisible id = true := by
  rw [rows_eq_map_row]
  constructor
  · rintro ⟨row, hrow, rfl⟩
    obtain ⟨p, hp, rfl⟩ := List.mem_map.1 hrow
    obtain ⟨hmem, hvisible⟩ := List.mem_filter.1 hp
    exact (isVisible_of_mem hmem).trans hvisible
  · intro h
    obtain ⟨p, hp, rfl⟩ := mem_ids_iff_places.1 (isVisible_iff.1 h).1
    rw [isVisible_of_mem hp] at h
    exact ⟨p.row, List.mem_map_of_mem (List.mem_filter.2 ⟨hp, h⟩), rfl⟩

/-- **The rows are the visible nodes.** The rows list the nodes of the pre-order that are visible, each with
the number of its ancestors. -/
theorem rows_eq_filter_ids (o : Outline) :
    o.rows = (o.ids.filter o.isVisible).map fun id => ⟨id, (o.parentsOf id).length⟩ := by
  have hsame : ∀ p ∈ o.places, (o.isVisible ∘ Place.id) p = p.isVisible := fun p hp => isVisible_of_mem hp
  rw [rows_eq_map_row, ← map_id_places, List.filter_map, List.map_map, List.filter_congr hsame]
  refine List.map_congr_left fun p hp => ?_
  have hmem : p ∈ o.places := List.mem_of_mem_filter hp
  rw [Function.comp_apply, parentsOf_of_mem hmem, Place.parents, List.length_map]
  rfl

end Outline

end LoopSurvey
