import Mathlib.Data.List.Nodup
import LoopSurvey.Outline.Expand
/-!
# Changing the nodes of a forest

What `Forest.map` does to the views of a forest: the places of the changed forest are the changed
places (`placesBelow_map`), so a search by a property that the change keeps finds the changed place
(`find?_map`). For outlines: an identifier leads to the node that has it (`node?_eq_some_iff`), and
after a change that keeps identifiers it leads to the changed node (`node?_of_map`).
-/

namespace LoopSurvey

/-- Changes a node together with all nodes above and below it. -/
def Place.map (f : α → β) (p : Place α) : Place β := ⟨f p.node, p.above.map f, p.below.map f⟩

namespace Forest

/-! ## Forests -/

theorem map_map (f : α → β) (g : β → γ) (t : Forest α) : (t.map f).map g = t.map (g ∘ f) := by
  induction t with
  | nil => rfl
  | cons a children rest ihc ihr => simp [map, ihc, ihr]

/-- Changes that agree on the nodes of a forest change it in the same way. -/
theorem map_congr {f g : α → β} {t : Forest α} (h : ∀ a ∈ t.preorder, f a = g a) :
    t.map f = t.map g := by
  induction t with
  | nil => rfl
  | cons a children rest ihc ihr =>
    have hc : children.map f = children.map g := ihc fun x hx => h x (by simp [preorder, hx])
    have hr : rest.map f = rest.map g := ihr fun x hx => h x (by simp [preorder, hx])
    simp only [map, h a (by simp [preorder]), hc, hr]

theorem map_eq_self {f : α → α} {t : Forest α} (h : ∀ a ∈ t.preorder, f a = a) : t.map f = t := by
  induction t with
  | nil => rfl
  | cons a children rest ihc ihr =>
    have hc : children.map f = children := ihc fun x hx => h x (by simp [preorder, hx])
    have hr : rest.map f = rest := ihr fun x hx => h x (by simp [preorder, hx])
    rw [map, h a (by simp [preorder]), hc, hr]

/-- Forests that are the same under some changes are the same under others, if the first tell what the
others need. -/
theorem map_eq_map_of {f : α → γ} {g : β → γ} {f' : α → δ} {g' : β → δ} {t : Forest α}
    {t' : Forest β} (h : t.map f = t'.map g) (hfg : ∀ a b, f a = g b → f' a = g' b) :
    t.map f' = t'.map g' := by
  induction t generalizing t' with
  | nil =>
    cases t' with
    | nil => rfl
    | cons b children rest => cases h
  | cons a children rest ihc ihr =>
    cases t' with
    | nil => cases h
    | cons b children' rest' =>
      rw [map, map, cons.injEq] at h
      rw [map, map, hfg a b h.1, ihc h.2.1, ihr h.2.2]

@[simp] theorem roots_map (f : α → β) (t : Forest α) : (t.map f).roots = t.roots.map f := by
  induction t with
  | nil => rfl
  | cons a children rest _ ihr => rw [map, roots, roots, ihr, List.map_cons]

/-- The places of a changed forest are the changed places. -/
theorem placesBelow_map (f : α → β) (above : List α) (t : Forest α) :
    (t.map f).placesBelow (above.map f) = (t.placesBelow above).map (Place.map f) := by
  induction t generalizing above with
  | nil => rfl
  | cons a children rest ihc ihr =>
    have hc := ihc (a :: above)
    rw [List.map_cons] at hc
    simp only [map, placesBelow, hc, ihr, List.map_cons, List.map_append, Place.map]

theorem places_map (f : α → β) (t : Forest α) : (t.map f).places = t.places.map (Place.map f) :=
  placesBelow_map f [] t

theorem any_eq (p : α → Bool) (t : Forest α) : t.any p = t.preorder.any p := by
  induction t with
  | nil => rfl
  | cons b children rest ihc ihr => simp [any, preorder, ihc, ihr, Bool.or_assoc]

theorem find?_eq (p : α → Bool) (t : Forest α) :
    t.find? p = t.places.find? fun q => p q.node :=
  findBelow?_eq p [] t

/-- A search in a changed forest finds the changed place. -/
theorem find?_map (f : α → β) (p : β → Bool) (t : Forest α) :
    (t.map f).find? p = (t.find? (p ∘ f)).map (Place.map f) := by
  rw [find?_eq, find?_eq, places_map, List.find?_map]
  rfl

end Forest

namespace Outline

theorem ext_forest {o o' : Outline} (h : o.forest = o'.forest) : o = o' := by
  cases o
  cases o'
  cases h
  rfl

/-! ## Nodes by identifier -/

theorem map_node_places (o : Outline) : o.places.map Place.node = o.nodes :=
  Forest.map_node_placesBelow [] o.forest

theorem node?_eq (o : Outline) (id : NodeId) : o.node? id = o.nodes.find? (·.id = id) := by
  unfold node? locate?
  rw [Forest.find?_eq, ← map_node_places, List.find?_map]
  rfl

theorem mem_ids {o : Outline} {id : NodeId} : id ∈ o.ids ↔ ∃ n ∈ o.nodes, n.id = id :=
  List.mem_map

/-- Two nodes with one identifier are the same node. -/
theorem eq_of_id_eq {o : Outline} {n m : Node} (hn : n ∈ o.nodes) (hm : m ∈ o.nodes)
    (h : n.id = m.id) : n = m :=
  List.inj_on_of_nodup_map o.nodup hn hm h

/-- An identifier leads to the node that has it. -/
theorem node?_eq_some_iff {o : Outline} {id : NodeId} {n : Node} :
    o.node? id = some n ↔ n ∈ o.nodes ∧ n.id = id := by
  rw [node?_eq]
  constructor
  · intro h
    exact ⟨List.mem_of_find?_eq_some h, by simpa using List.find?_some h⟩
  · rintro ⟨hn, rfl⟩
    obtain ⟨m, hm⟩ : ∃ m, o.nodes.find? (·.id = n.id) = some m := by
      rw [← Option.isSome_iff_exists, List.find?_isSome]
      exact ⟨n, hn, by simp⟩
    have hid : m.id = n.id := by simpa using List.find?_some hm
    rw [hm, eq_of_id_eq (List.mem_of_find?_eq_some hm) hn hid]

theorem node?_eq_none_iff {o : Outline} {id : NodeId} : o.node? id = none ↔ id ∉ o.ids := by
  rw [node?_eq, List.find?_eq_none, mem_ids]
  simp

theorem node?_of_mem {o : Outline} {n : Node} (h : n ∈ o.nodes) : o.node? n.id = some n :=
  node?_eq_some_iff.2 ⟨h, rfl⟩

/-! ## Outlines after a change -/

section Changed

variable {o o' : Outline} {f : Node → Node} (h : o'.forest = o.forest.map f)
include h

theorem nodes_of_map : o'.nodes = o.nodes.map f := by
  unfold nodes
  rw [h, Forest.preorder_map]

theorem ids_of_map (hf : ∀ n, (f n).id = n.id) : o'.ids = o.ids := by
  unfold ids
  rw [nodes_of_map h, List.map_map]
  exact List.map_congr_left fun n _ => hf n

/-- A change that keeps identifiers keeps what they lead to, but for the change. -/
theorem locate?_of_map (hf : ∀ n, (f n).id = n.id) (id : NodeId) :
    o'.locate? id = (o.locate? id).map (Place.map f) := by
  unfold locate?
  rw [h, Forest.find?_map]
  simp only [Function.comp_def, hf]

theorem node?_of_map (hf : ∀ n, (f n).id = n.id) (id : NodeId) :
    o'.node? id = (o.node? id).map f := by
  unfold node?
  rw [locate?_of_map h hf, Option.map_map, Option.map_map]
  rfl

end Changed

@[simp] theorem nodes_mapState (o : Outline) (f : Node → NodeState) :
    (o.mapState f).nodes = o.nodes.map fun n => { n with state := f n } :=
  nodes_of_map rfl

/-- A change of states changes the state of the node that an identifier leads to. -/
theorem node?_mapState (o : Outline) (f : Node → NodeState) (id : NodeId) :
    (o.mapState f).node? id = (o.node? id).map fun n => { n with state := f n } :=
  node?_of_map (f := fun n => { n with state := f n }) rfl (fun _ => rfl) id

@[simp] theorem ids_mapState (o : Outline) (f : Node → NodeState) : (o.mapState f).ids = o.ids :=
  ids_of_map rfl fun _ => rfl

@[simp] theorem ids_mapLabel (o : Outline) (f : Node → Label) : (o.mapLabel f).ids = o.ids :=
  ids_of_map rfl fun _ => rfl

@[simp] theorem ids_setOpened (o : Outline) (ids : List NodeId) (b : Bool) :
    (o.setOpened ids b).ids = o.ids := ids_mapState o _

@[simp] theorem ids_setSelected (o : Outline) (ids : List NodeId) (b : Bool) :
    (o.setSelected ids b).ids = o.ids := ids_mapState o _

@[simp] theorem ids_setChecked (o : Outline) (ids : List NodeId) (b : Bool) :
    (o.setChecked ids b).ids = o.ids := ids_mapState o _

@[simp] theorem ids_updateLabel (o : Outline) (ids : List NodeId) (f : Label → Label) :
    (o.updateLabel ids f).ids = o.ids := ids_mapLabel o _

/-- Which identifiers are listed beside those of the outline does not matter. -/
theorem updateState_congr {o : Outline} {ids ids' : List NodeId}
    (h : ∀ id ∈ o.ids, (id ∈ ids ↔ id ∈ ids')) (f : NodeState → NodeState) :
    o.updateState ids f = o.updateState ids' f :=
  ext_forest (Forest.map_congr fun n hn => by simp only [h n.id (mem_ids.2 ⟨n, hn, rfl⟩)])

/-- Where a change of states sets a flag, it decides about the flags of the listed nodes that are there, and about
no other. -/
theorem exists_mem_updateState_iff {o : Outline} {f : NodeState → NodeState} (flag : NodeState → Bool) {b : Bool}
    (hf : ∀ s, flag (f s) = b) {ids : List NodeId} {id : NodeId} :
    (∃ n ∈ (o.updateState ids f).nodes, flag n.state = true ∧ n.id = id) ↔
      if id ∈ ids then b = true ∧ id ∈ o.ids else ∃ n ∈ o.nodes, flag n.state = true ∧ n.id = id := by
  rw [updateState, nodes_mapState]
  constructor
  · rintro ⟨n', hn', hflag, rfl⟩
    obtain ⟨n, hn, rfl⟩ := List.mem_map.1 hn'
    by_cases hin : n.id ∈ ids
    · rw [if_pos hin]
      exact ⟨by simpa [hin, hf] using hflag, mem_ids.2 ⟨n, hn, rfl⟩⟩
    · rw [if_neg hin]
      exact ⟨n, hn, by simpa [hin] using hflag, rfl⟩
  · intro h
    split at h
    · next hin =>
      obtain ⟨hb, hid⟩ := h
      obtain ⟨n, hn, rfl⟩ := mem_ids.1 hid
      exact ⟨_, List.mem_map_of_mem hn, by simp [hin, hf, hb], rfl⟩
    · next hin =>
      obtain ⟨n, hn, hflag, rfl⟩ := h
      exact ⟨_, List.mem_map_of_mem hn, by simpa [hin] using hflag, rfl⟩

theorem updateLabel_congr {o : Outline} {ids ids' : List NodeId}
    (h : ∀ id ∈ o.ids, (id ∈ ids ↔ id ∈ ids')) (f : Label → Label) :
    o.updateLabel ids f = o.updateLabel ids' f :=
  ext_forest (Forest.map_congr fun n hn => by simp only [h n.id (mem_ids.2 ⟨n, hn, rfl⟩)])

/-! ## Opening and closing -/

/-- Changing the state of no node changes nothing. -/
theorem setOpened_nil (o : Outline) (b : Bool) : o.setOpened [] b = o :=
  ext_forest (Forest.map_eq_self fun n _ => by simp)

/-- Expanding or collapsing a subtree opens or closes certain nodes. -/
theorem changeSubtree_eq (o : Outline) (id : NodeId) (b : Bool) :
    ∃ ids, (o.changeSubtree id b).1 = o.setOpened ids b := by
  unfold changeSubtree
  split
  · exact ⟨[], (setOpened_nil o b).symm⟩
  · exact ⟨_, rfl⟩

/-- Showing flagged loops opens certain nodes. -/
theorem expandLoops_eq (o : Outline) (id : NodeId) (flag : LoopFlag) :
    ∃ ids, (o.expandLoops id flag).1 = o.setOpened ids true := by
  unfold expandLoops
  split
  · exact ⟨[], (setOpened_nil o true).symm⟩
  · split
    · exact ⟨_, rfl⟩
    · exact ⟨[], (setOpened_nil o true).symm⟩

end Outline

end LoopSurvey
