import LoopSurvey.Proofs.Outline.Opening
import LoopSurvey.Proofs.Outline.Visibility
import LoopSurvey.Sample.Pair
/-!
# Showing flagged nodes

The lineage of a node is what must be opened to show it and all below it: its ancestors, itself and its descendants.
What a walk through a forest lists to show the flagged nodes (`Forest.revealing`) is the lineages of these within the
forest (`Forest.mem_revealing`). So expanding the flagged loops below a node comes to opening the lineages of all of
them (`expandLoops_eq`), at once or one node after the other, and then all of them are shown with everything below
(`expandLoops_opens`).
-/

namespace LoopSurvey

/-- The same place in a forest that hangs from more nodes. -/
def Place.hang (above : List α) (p : Place α) : Place α := { p with above := p.above ++ above }

namespace Place

/-- The identifiers of the ancestors of a place, nearest first, of itself, and of its descendants in pre-order. -/
def lineage (p : Place Node) : List NodeId := p.parents ++ p.id :: p.descendants

theorem mem_lineage_hang {above : List Node} {p : Place Node} {x : NodeId} :
    x ∈ (p.hang above).lineage ↔ x ∈ p.lineage ∨ x ∈ above.map Node.id := by
  have hparents : (p.hang above).parents = p.parents ++ above.map Node.id := List.map_append
  have hrest : (p.hang above).id :: (p.hang above).descendants = p.id :: p.descendants := rfl
  rw [lineage, lineage, hparents, hrest, List.mem_append, List.mem_append, List.mem_append]
  exact or_right_comm

end Place

namespace Forest

variable {t : Forest Node} {flag : Node → Bool} {x : NodeId}

/-! ## Flagged nodes of a forest -/

theorem placesBelow_append (inner above : List α) (t : Forest α) :
    t.placesBelow (inner ++ above) = (t.placesBelow inner).map (Place.hang above) := by
  induction t generalizing inner with
  | nil => rfl
  | cons a children rest ihc ihr =>
    have hc := ihc (a :: inner)
    rw [List.cons_append] at hc
    rw [placesBelow, hc, ihr inner, placesBelow, List.map_cons, List.map_append]
    rfl

theorem placesBelow_eq_map_hang (above : List α) (t : Forest α) :
    t.placesBelow above = t.places.map (Place.hang above) :=
  placesBelow_append [] above t

theorem any_iff_places : t.any flag = true ↔ ∃ q ∈ t.places, flag q.node = true := by
  rw [any_eq, ← map_node_placesBelow [] t, List.any_map, List.any_eq_true]
  rfl

/-- The flagged nodes of a forest that hangs from a node, with their lineages. -/
theorem exists_lineage_placesBelow (n : Node) (above : List Node) (t : Forest Node) (flag : Node → Bool) (x : NodeId) :
    (∃ q ∈ t.placesBelow (n :: above), flag q.node = true ∧ x ∈ q.lineage) ↔
      (t.any flag = true ∧ (x = n.id ∨ x ∈ above.map Node.id)) ∨
        ∃ q ∈ t.places, flag q.node = true ∧ x ∈ q.lineage := by
  rw [placesBelow_eq_map_hang, any_iff_places]
  simp only [List.mem_map, exists_exists_and_eq_and, Place.mem_lineage_hang, List.map_cons, List.mem_cons]
  constructor
  · rintro ⟨q, hq, hflag, hx | hx⟩
    · exact Or.inr ⟨q, hq, hflag, hx⟩
    · exact Or.inl ⟨⟨q, hq, hflag⟩, hx⟩
  · rintro (⟨⟨q, hq, hflag⟩, hx⟩ | ⟨q, hq, hflag, hx⟩)
    · exact ⟨q, hq, hflag, Or.inr hx⟩
    · exact ⟨q, hq, hflag, Or.inl hx⟩

theorem exists_lineage_cons (n : Node) (children rest : Forest Node) (flag : Node → Bool) (x : NodeId) :
    (∃ q ∈ (cons n children rest).places, flag q.node = true ∧ x ∈ q.lineage) ↔
      (flag n = true ∧ (x = n.id ∨ x ∈ children.preorder.map Node.id)) ∨
      (children.any flag = true ∧ x = n.id ∨ ∃ q ∈ children.places, flag q.node = true ∧ x ∈ q.lineage) ∨
      ∃ q ∈ rest.places, flag q.node = true ∧ x ∈ q.lineage := by
  have hroot : x ∈ (⟨n, [], children⟩ : Place Node).lineage ↔ x = n.id ∨ x ∈ children.preorder.map Node.id :=
    List.mem_cons
  have hchildren := exists_lineage_placesBelow n [] children flag x
  simp only [List.map_nil, List.not_mem_nil, or_false] at hchildren
  rw [← hchildren, ← hroot]
  simp only [places, placesBelow, List.mem_cons, List.mem_append, or_and_right, exists_or, exists_eq_left]

theorem mem_ids_of_mem_revealing (h : x ∈ t.revealing flag) : x ∈ t.preorder.map Node.id := by
  induction t with
  | nil => cases h
  | cons n children rest ihc ihr =>
    rw [preorder, List.map_cons, List.map_append]
    rcases List.mem_append.1 h with h | h
    · split_ifs at h
      · exact List.mem_append_left _ h
      · rcases List.mem_cons.1 h with rfl | h
        · exact List.mem_cons_self
        · exact List.mem_cons_of_mem _ (List.mem_append_left _ (ihc h))
      · cases h
    · exact List.mem_cons_of_mem _ (List.mem_append_right _ (ihr h))

theorem any_of_mem_revealing (h : x ∈ t.revealing flag) : t.any flag = true := by
  induction t with
  | nil => cases h
  | cons n children rest _ ihr =>
    rw [any, Bool.or_eq_true, Bool.or_eq_true]
    rcases List.mem_append.1 h with h | h
    · split_ifs at h with hn hc
      · exact Or.inl (Or.inl hn)
      · exact Or.inl (Or.inr hc)
      · cases h
    · exact Or.inr (ihr h)

/-- What is listed to show the flagged nodes is their lineages within the forest. -/
theorem mem_revealing : x ∈ t.revealing flag ↔ ∃ q ∈ t.places, flag q.node = true ∧ x ∈ q.lineage := by
  induction t with
  | nil => simp [revealing, places, placesBelow]
  | cons n children rest ihc ihr =>
    rw [exists_lineage_cons, ← ihc, ← ihr, revealing, List.mem_append]
    by_cases hn : flag n = true
    · -- the whole tree is listed, so what is listed of its children is listed anyway
      have hsub : x ∈ children.revealing flag → x ∈ children.preorder.map Node.id := mem_ids_of_mem_revealing
      rw [if_pos hn, List.mem_cons]
      tauto
    · by_cases hc : children.any flag = true
      · rw [if_neg hn, if_pos hc, List.mem_cons]
        tauto
      · have hnone : x ∉ children.revealing flag := fun h => hc (any_of_mem_revealing h)
        rw [if_neg hn, if_neg hc]
        tauto

end Forest

namespace Outline

variable {o : Outline} {p q : Place Node} {flag : LoopFlag} {id d x : NodeId}

/-! ## Flagged nodes of an outline -/

/-- The identifiers of the flagged descendants of a node in pre-order. -/
def flaggedBelow (o : Outline) (id : NodeId) (flag : LoopFlag) : List NodeId :=
  (o.descendantsOf id).filter fun d => (o.node? d).any flag.marks

theorem lineage_of_mem (h : p ∈ o.places) : o.lineage p.id = p.lineage := by
  rw [lineage, parentsOf_of_mem h, descendantsOf_of_mem h]
  rfl

theorem node?_of_mem_places (h : p ∈ o.places) : o.node? p.id = some p.node := by
  rw [node?, locate?_of_mem h]
  rfl

theorem mem_flaggedBelow (h : p ∈ o.places) : d ∈ o.flaggedBelow p.id flag ↔
    ∃ q ∈ p.below.placesBelow (p.node :: p.above), flag.marks q.node = true ∧ q.id = d := by
  rw [flaggedBelow, descendantsOf_of_mem h, descendants_eq_map_places, List.mem_filter, List.mem_map]
  constructor
  · rintro ⟨⟨q, hq, rfl⟩, hflag⟩
    rw [node?_of_mem_places (Forest.placesBelow_trans h hq)] at hflag
    exact ⟨q, hq, hflag, rfl⟩
  · rintro ⟨q, hq, hflag, rfl⟩
    refine ⟨⟨q, hq, rfl⟩, ?_⟩
    rw [node?_of_mem_places (Forest.placesBelow_trans h hq)]
    exact hflag

/-- What is opened to show the flagged loops below a node is their lineages. -/
theorem mem_lineages_flaggedBelow (h : p ∈ o.places) : x ∈ (o.flaggedBelow p.id flag).flatMap o.lineage ↔
    (p.below.any flag.marks = true ∧ x ∈ p.parents ++ [p.id]) ∨ x ∈ p.below.revealing flag.marks := by
  have hplaces : x ∈ (o.flaggedBelow p.id flag).flatMap o.lineage ↔
      ∃ q ∈ p.below.placesBelow (p.node :: p.above), flag.marks q.node = true ∧ x ∈ q.lineage := by
    rw [List.mem_flatMap]
    constructor
    · rintro ⟨d, hd, hx⟩
      obtain ⟨q, hq, hflag, rfl⟩ := (mem_flaggedBelow h).1 hd
      exact ⟨q, hq, hflag, lineage_of_mem (Forest.placesBelow_trans h hq) ▸ hx⟩
    · rintro ⟨q, hq, hflag, hx⟩
      refine ⟨q.id, (mem_flaggedBelow h).2 ⟨q, hq, hflag, rfl⟩, ?_⟩
      rwa [lineage_of_mem (Forest.placesBelow_trans h hq)]
  rw [hplaces, Forest.exists_lineage_placesBelow, ← Forest.mem_revealing, or_comm (b := x ∈ p.above.map Node.id),
    List.mem_append, List.mem_singleton]
  rfl

/-- Showing flagged loops opens their lineages. -/
theorem expandLoops_eq_changeOpened (o : Outline) (id : NodeId) (flag : LoopFlag) :
    o.expandLoops id flag = o.changeOpened ((o.flaggedBelow id flag).flatMap o.lineage) true := by
  unfold expandLoops
  split
  · next hnone =>
    have hbelow : o.flaggedBelow id flag = [] := by rw [flaggedBelow, descendantsOf, hnone]; rfl
    rw [hbelow]
    exact (o.changeOpened_nil true).symm
  · next p hp =>
    obtain ⟨hmem, rfl⟩ := locate?_eq_some_iff.1 hp
    split
    · next hany =>
      refine changeOpened_congr fun x _ => ?_
      rw [mem_lineages_flaggedBelow hmem, and_iff_right hany, ← List.mem_append, List.append_assoc]
      rfl
    · next hany =>
      rw [← o.changeOpened_nil true]
      refine changeOpened_congr fun x _ => ?_
      have hnone : x ∉ p.below.revealing flag.marks := fun h => hany (Forest.any_of_mem_revealing h)
      simp [mem_lineages_flaggedBelow hmem, hany, hnone]

/-! ## Outlines in which other nodes are opened -/

theorem lineage_setOpened (o : Outline) (ids : List NodeId) (b : Bool) (id : NodeId) :
    (o.setOpened ids b).lineage id = o.lineage id := by
  rw [lineage, lineage, parentsOf_setOpened, descendantsOf_setOpened]

theorem flaggedBelow_setOpened (o : Outline) (ids : List NodeId) (b : Bool) (id : NodeId) (flag : LoopFlag) :
    (o.setOpened ids b).flaggedBelow id flag = o.flaggedBelow id flag := by
  have hmarks : ∀ d, ((o.setOpened ids b).node? d).any flag.marks = (o.node? d).any flag.marks := by
    intro d
    rw [setOpened, updateState, node?_mapState, Option.any_map]
    cases flag <;> rfl
  simp only [flaggedBelow, hmarks, descendantsOf_setOpened]

/-- Where the lineage of a node is opened, the node is shown, and so is everything below it. -/
theorem isVisible_of_lineage {ids : List NodeId} (hd : d ∈ o.ids) (h : o.lineage d ⊆ ids)
    (hx : x = d ∨ x ∈ o.descendantsOf d) : (o.setOpened ids true).isVisible x = true := by
  rcases hx with rfl | hx
  · exact isVisible_setOpened hd fun n _ hn _ => h (mem_lineage.2 (Or.inl hn))
  · refine isVisible_setOpened (mem_ids_of_mem_descendantsOf hx) fun n _ hn _ => ?_
    exact h (mem_lineage_of_mem_parentsOf hx hn)

theorem mem_ids_of_mem_lineage (hd : d ∈ o.ids) (hx : x ∈ o.lineage d) : x ∈ o.ids := by
  rcases mem_lineage.1 hx with hx | rfl | hx
  · exact mem_ids_of_mem_parentsOf hx
  · exact hd
  · exact mem_ids_of_mem_descendantsOf hx

/-- **Showing flagged loops opens their lineages.** After it those nodes are opened that were, and for each flagged
descendant of the node all its ancestors, itself and all its descendants; nothing else about any node changes. Each
flagged descendant is visible, and so is everything below it. The number told is that of the nodes that have been
opened, and all is as if the lineages of the flagged descendants had been opened node after node, and those counted that
were closed when their turn came. Done again, it changes nothing and tells 0. -/
theorem expandLoops_opens (o : Outline) (id : NodeId) (flag : LoopFlag) :
    let o' := (o.expandLoops id flag).1
    let flagged := o.flaggedBelow id flag
    (∀ x, x ∈ o'.opened ↔
      x ∈ o.opened ∨ ∃ d ∈ flagged, x ∈ o.parentsOf d ∨ x = d ∨ x ∈ o.descendantsOf d) ∧
    o'.forest.map Node.closed = o.forest.map Node.closed ∧
    (∀ d ∈ flagged, ∀ x, x = d ∨ x ∈ o.descendantsOf d → o'.isVisible x = true) ∧
    (o.expandLoops id flag).2 = (o.flipped o').length ∧
    o.expandLoops id flag = o.changeEach (flagged.flatMap o.lineage) true ∧
    o'.expandLoops id flag = (o', 0) := by
  intro o' flagged
  have he : o.expandLoops id flag = o.changeOpened (flagged.flatMap o.lineage) true :=
    o.expandLoops_eq_changeOpened id flag
  have ho' : o' = o.setOpened (flagged.flatMap o.lineage) true := congrArg Prod.fst he
  have hids : ∀ d ∈ flagged, d ∈ o.ids := fun d hd => mem_ids_of_mem_descendantsOf (List.mem_of_mem_filter hd)
  refine ⟨fun x => ?opened, ?rest, fun d hd x hx => ?visible, ?count, ?each, ?again⟩
  case opened =>
    have hthere : x ∈ flagged.flatMap o.lineage → x ∈ o.ids := fun hx => by
      obtain ⟨d, hd, hx⟩ := List.mem_flatMap.1 hx
      exact mem_ids_of_mem_lineage (hids d hd) hx
    rw [ho', mem_opened_open, and_iff_left_of_imp hthere, List.mem_flatMap]
    simp only [mem_lineage]
  case rest =>
    rw [ho']
    exact o.map_closed_setOpened _ true
  case visible =>
    rw [ho']
    exact isVisible_of_lineage (hids d hd) (fun a ha => List.mem_flatMap.2 ⟨d, hd, ha⟩) hx
  case count =>
    rw [ho', he]
    exact o.changeOpened_snd _ true
  case each => rw [he, changeEach_eq]
  case again =>
    have hsame : o'.flaggedBelow id flag = flagged := ho' ▸ o.flaggedBelow_setOpened _ true id flag
    have hlineage : o'.lineage = o.lineage := funext fun d => ho' ▸ o.lineage_setOpened _ true d
    rw [expandLoops_eq_changeOpened, hsame, hlineage, ho']
    exact o.changeOpened_setOpened _ true

/-- In the closed routine both loops are flagged, and they are shown by opening the three nodes. -/
theorem expandLoops_opens_pair :
    let o := Sample.pairOutline.setOpened [Sample.routineId] false
    let o' := (o.expandLoops Sample.routineId .target).1
    o.flaggedBelow Sample.routineId .target = [Sample.firstId, Sample.secondId] ∧
    o.isVisible Sample.secondId = false ∧ o'.isVisible Sample.secondId = true ∧
    (o.expandLoops Sample.routineId .target).2 = 3 := by
  intro o o'
  have hflagged : o.flaggedBelow Sample.routineId .target = [Sample.firstId, Sample.secondId] := by decide
  have hmem : Sample.secondId ∈ o.flaggedBelow Sample.routineId .target := by decide
  obtain ⟨-, -, hvisible, -⟩ := o.expandLoops_opens Sample.routineId .target
  exact ⟨hflagged, by decide, hvisible Sample.secondId hmem Sample.secondId (Or.inl rfl), by decide⟩

end Outline

end LoopSurvey
