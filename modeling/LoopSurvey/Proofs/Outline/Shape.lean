import LoopSurvey.Proofs.Outline.Places
/-!
# Depths tell the shape

A forest is known from its nodes in pre-order with their depths (`Forest.levels_inj`): what is below a node ends where
the depth falls back to that of the node. So outlines in which the depths of the nodes are the same, one after the
other, are the same forest of positions (`Outline.map_position_eq`), and nodes at one position have their parents at
one position (`Outline.parentPosition?_eq`).
-/

namespace LoopSurvey

namespace Forest

variable {t t' : Forest α} {depth : Nat} {after after' : List (Nat × α)}

/-! ## Forests and depths -/

/-- The nodes in pre-order with their depths, for a forest whose roots have a given depth. -/
def levels (depth : Nat) : Forest α → List (Nat × α)
  | nil => []
  | cons a children rest => (depth, a) :: (children.levels (depth + 1) ++ rest.levels depth)

theorem map_placesBelow_eq_levels (above : List α) (t : Forest α) :
    (t.placesBelow above).map (fun p => (p.depth, p.node)) = t.levels above.length := by
  induction t generalizing above with
  | nil => rfl
  | cons a children rest ihc ihr =>
    have hc := ihc (a :: above)
    rw [List.length_cons] at hc
    rw [placesBelow, List.map_cons, List.map_append, hc, ihr]
    rfl

/-- What comes next, if anything does, is less deep. -/
def FallsBack (depth : Nat) (after : List (Nat × α)) : Prop := ∀ next ∈ after.head?, next.1 < depth

/-- After the descendants of a node come its siblings, which are as deep as itself, or what follows these. -/
theorem FallsBack.siblings (h : FallsBack depth after) (rest : Forest α) :
    FallsBack (depth + 1) (rest.levels depth ++ after) := by
  cases rest with
  | nil => exact fun next hnext => Nat.lt_succ_of_lt (h next hnext)
  | cons a children rest =>
    rintro next hnext
    cases hnext
    exact Nat.lt_succ_self depth

theorem FallsBack.ne_cons (h : FallsBack depth after) (a : α) (more : List (Nat × α)) :
    after ≠ (depth, a) :: more := by
  rintro rfl
  exact Nat.lt_irrefl depth (h (depth, a) rfl)

/-- A forest is known from what is written of it, and so is where that ends. -/
theorem levels_append_inj (h : t.levels depth ++ after = t'.levels depth ++ after') (ha : FallsBack depth after)
    (ha' : FallsBack depth after') : t = t' ∧ after = after' := by
  induction t generalizing t' depth after after' with
  | nil =>
    cases t' with
    | nil => exact ⟨rfl, h⟩
    | cons b children rest => exact absurd h (ha.ne_cons b _)
  | cons a children rest ihc ihr =>
    cases t' with
    | nil => exact absurd h.symm (ha'.ne_cons a _)
    | cons b children' rest' =>
      simp only [levels, List.cons_append, List.append_assoc, List.cons.injEq, Prod.mk.injEq, true_and] at h
      obtain ⟨rfl, hbelow⟩ := h
      obtain ⟨rfl, hrest⟩ := ihc hbelow (ha.siblings rest) (ha'.siblings rest')
      obtain ⟨rfl, hafter⟩ := ihr hrest ha ha'
      exact ⟨rfl, hafter⟩

theorem levels_inj (h : t.levels depth = t'.levels depth) : t = t' := by
  have hnone : FallsBack depth ([] : List (Nat × α)) := fun _ hnext => nomatch hnext
  exact (levels_append_inj (congrArg (· ++ []) h) hnone hnone).1

end Forest

namespace Outline

variable {o o' : Outline} {p p' : Place Node} {i : Nat}

/-! ## Outlines and positions -/

/-- The position of a node in the pre-order. -/
def position (o : Outline) (n : Node) : Nat := o.ids.idxOf n.id

/-- The position of the parent of a node, if it has one. -/
def parentPosition? (o : Outline) (p : Place Node) : Option Nat := p.above.head?.map o.position

theorem length_places (o : Outline) : o.places.length = o.size := by
  rw [size, ← Forest.length_preorder, ← Forest.map_node_placesBelow [] o.forest, List.length_map]
  rfl

theorem position_of_getElem? (h : o.places[i]? = some p) : o.position p.node = i := by
  have hid : o.ids[i]? = some p.node.id := by
    rw [← map_id_places, List.getElem?_map, h]
    rfl
  obtain ⟨hlt, hget⟩ := List.getElem?_eq_some_iff.1 hid
  rw [position, ← hget]
  exact o.nodup.idxOf_getElem i hlt

/-- With the nodes replaced by their positions, the depths are numbered through. -/
theorem levels_map_position (o : Outline) :
    (o.forest.map o.position).levels 0 = (o.places.map Place.depth).zipIdx := by
  have hlevels := Forest.map_placesBelow_eq_levels [] (o.forest.map o.position)
  have hplaces : (o.forest.map o.position).placesBelow [] = o.places.map (Place.map o.position) :=
    Forest.places_map o.position o.forest
  rw [List.length_nil] at hlevels
  rw [← hlevels, hplaces, List.map_map]
  refine List.ext_getElem? fun i => ?_
  rw [List.getElem?_map, List.getElem?_zipIdx, List.getElem?_map]
  cases hp : o.places[i]? with
  | none => rfl
  | some p =>
    simp only [Option.map_some, Function.comp_apply, Place.map, Place.depth, List.length_map,
      position_of_getElem? hp, Nat.zero_add]

/-- Outlines with the same depths are the same forest of positions. -/
theorem map_position_eq (h : o.places.map Place.depth = o'.places.map Place.depth) :
    o.forest.map o.position = o'.forest.map o'.position := by
  have hlevels : (o.forest.map o.position).levels 0 = (o'.forest.map o'.position).levels 0 := by
    rw [levels_map_position, levels_map_position, h]
  exact Forest.levels_inj hlevels

/-- In outlines with the same depths, nodes at one position have their parents at one position. -/
theorem parentPosition?_eq (h : o.places.map Place.depth = o'.places.map Place.depth)
    (hp : o.places[i]? = some p) (hp' : o'.places[i]? = some p') : o.parentPosition? p = o'.parentPosition? p' := by
  have hplaces : o.places.map (Place.map o.position) = o'.places.map (Place.map o'.position) := by
    have hmap := congrArg Forest.places (map_position_eq h)
    rwa [Forest.places_map, Forest.places_map] at hmap
  have hplace : p.map o.position = p'.map o'.position := by
    have hi := congrArg (·[i]?) hplaces
    simpa only [List.getElem?_map, hp, hp', Option.map_some, Option.some.injEq] using hi
  have habove : p.above.map o.position = p'.above.map o'.position := congrArg Place.above hplace
  rw [parentPosition?, parentPosition?, ← List.head?_map, ← List.head?_map, habove]

end Outline

end LoopSurvey
