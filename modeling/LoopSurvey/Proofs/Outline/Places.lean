import LoopSurvey.Proofs.Outline.Mapping
/-!
# What lies above and below a node

The places of a forest come in pre-order: each is directly followed by the places below it
(`Forest.placesBelow_split`), and it is at the top of the forest or hangs from the place of its parent
(`Forest.parent_cases`). In an outline an identifier leads to one place, so its ancestors, its children and
its descendants can be asked for by identifier (`parentsOf`, `childrenOf`, `descendantsOf`). The descendants
of a node are the nodes that it is an ancestor of (`mem_descendantsOf_iff`), and they are the part of the
pre-order that directly follows it (`ids_split`).
-/

namespace LoopSurvey

namespace Forest

variable {p q : Place α} {above : List α} {t : Forest α}

/-! ## Forests -/

/-- A place is directly followed by the places below it. -/
theorem placesBelow_split (h : p ∈ t.placesBelow above) :
    ∃ before after, t.placesBelow above =
      before ++ p :: (p.below.placesBelow (p.node :: p.above) ++ after) := by
  induction t generalizing above with
  | nil => cases h
  | cons a children rest ihc ihr =>
    rcases List.mem_cons.1 h with rfl | h
    · exact ⟨[], _, rfl⟩
    · rcases List.mem_append.1 h with h | h
      · obtain ⟨before, after, he⟩ := ihc h
        refine ⟨⟨a, above, children⟩ :: before, after ++ rest.placesBelow above, ?_⟩
        simp [placesBelow, he]
      · obtain ⟨before, after, he⟩ := ihr h
        refine ⟨⟨a, above, children⟩ :: (children.placesBelow (a :: above) ++ before), after, ?_⟩
        simp [placesBelow, he]

/-- What is below a place of a forest is in the forest. -/
theorem placesBelow_trans (h : p ∈ t.placesBelow above)
    (hq : q ∈ p.below.placesBelow (p.node :: p.above)) : q ∈ t.placesBelow above := by
  obtain ⟨before, after, he⟩ := placesBelow_split h
  rw [he]
  simp [hq]

/-- Every place hangs from what its forest hangs from. -/
theorem suffix_above (h : p ∈ t.placesBelow above) : above <:+ p.above := by
  induction t generalizing above with
  | nil => cases h
  | cons a children rest ihc ihr =>
    rcases List.mem_cons.1 h with rfl | h
    · exact List.suffix_refl _
    · rcases List.mem_append.1 h with h | h
      · exact (List.suffix_cons a above).trans (ihc h)
      · exact ihr h

/-- A place is at the top of the forest, or it hangs from the place of its parent. -/
theorem parent_cases (h : q ∈ t.placesBelow above) :
    (q.above = above ∧ q.node ∈ t.roots) ∨
    ∃ p ∈ t.placesBelow above, q.above = p.node :: p.above ∧ q.node ∈ p.below.roots := by
  induction t generalizing above with
  | nil => cases h
  | cons a children rest ihc ihr =>
    rcases List.mem_cons.1 h with rfl | h
    · exact Or.inl ⟨rfl, List.mem_cons_self⟩
    · rcases List.mem_append.1 h with h | h
      · rcases ihc h with ⟨habove, hroot⟩ | ⟨p, hp, hq⟩
        · exact Or.inr ⟨⟨a, above, children⟩, List.mem_cons_self, habove, hroot⟩
        · exact Or.inr ⟨p, List.mem_cons_of_mem _ (List.mem_append_left _ hp), hq⟩
      · rcases ihr h with ⟨habove, hroot⟩ | ⟨p, hp, hq⟩
        · exact Or.inl ⟨habove, List.mem_cons_of_mem _ hroot⟩
        · exact Or.inr ⟨p, List.mem_cons_of_mem _ (List.mem_append_right _ hp), hq⟩

/-- What is above a place is above the whole forest, or it is the node of a place that the first one is
below. -/
theorem mem_above_cases (h : q ∈ t.placesBelow above) {a : α} (ha : a ∈ q.above) :
    a ∈ above ∨
    ∃ p ∈ t.placesBelow above, p.node = a ∧ q ∈ p.below.placesBelow (p.node :: p.above) := by
  induction t generalizing above with
  | nil => cases h
  | cons b children rest ihc ihr =>
    rcases List.mem_cons.1 h with rfl | h
    · exact Or.inl ha
    · rcases List.mem_append.1 h with h | h
      · rcases ihc h with hm | ⟨p, hp, hq⟩
        · rcases List.mem_cons.1 hm with rfl | hm
          · exact Or.inr ⟨⟨a, above, children⟩, List.mem_cons_self, rfl, h⟩
          · exact Or.inl hm
        · exact Or.inr ⟨p, List.mem_cons_of_mem _ (List.mem_append_left _ hp), hq⟩
      · rcases ihr h with hm | ⟨p, hp, hq⟩
        · exact Or.inl hm
        · exact Or.inr ⟨p, List.mem_cons_of_mem _ (List.mem_append_right _ hp), hq⟩

end Forest

namespace Outline

variable {o : Outline} {p q : Place Node} {id : NodeId}

/-! ## Places by identifier -/

@[simp] theorem map_id_places (o : Outline) : o.places.map Place.id = o.ids := by
  unfold ids
  rw [← map_node_places, List.map_map]
  rfl

/-- Two places with one identifier are the same place. -/
theorem place_eq_of_id_eq (hp : p ∈ o.places) (hq : q ∈ o.places) (h : p.id = q.id) : p = q := by
  have hnodup : (o.places.map Place.id).Nodup := by
    rw [map_id_places]
    exact o.nodup
  exact List.inj_on_of_nodup_map hnodup hp hq h

theorem mem_ids_iff_places : id ∈ o.ids ↔ ∃ p ∈ o.places, p.id = id := by
  rw [← map_id_places, List.mem_map]

/-- An identifier leads to the place that has it. -/
theorem locate?_eq_some_iff : o.locate? id = some p ↔ p ∈ o.places ∧ p.id = id := by
  have hfind : o.locate? id = o.places.find? fun q => q.id = id := Forest.find?_eq _ o.forest
  rw [hfind]
  constructor
  · intro h
    exact ⟨List.mem_of_find?_eq_some h, by simpa using List.find?_some h⟩
  · rintro ⟨hp, rfl⟩
    obtain ⟨q, hq⟩ : ∃ q, o.places.find? (fun q => q.id = p.id) = some q := by
      rw [← Option.isSome_iff_exists, List.find?_isSome]
      exact ⟨p, hp, by simp⟩
    have hid : q.id = p.id := by simpa using List.find?_some hq
    rw [hq, place_eq_of_id_eq (List.mem_of_find?_eq_some hq) hp hid]

theorem locate?_eq_none_iff : o.locate? id = none ↔ id ∉ o.ids := by
  rw [Option.eq_none_iff_forall_ne_some, mem_ids_iff_places, not_exists]
  simp only [ne_eq, locate?_eq_some_iff]

theorem locate?_of_mem (h : p ∈ o.places) : o.locate? p.id = some p := locate?_eq_some_iff.2 ⟨h, rfl⟩

/-- The identifiers of the ancestors of a node, nearest first; none for an identifier of no node. -/
def parentsOf (o : Outline) (id : NodeId) : List NodeId := ((o.locate? id).map Place.parents).getD []

/-- The identifiers of the children of a node; none for an identifier of no node. -/
def childrenOf (o : Outline) (id : NodeId) : List NodeId := ((o.locate? id).map Place.children).getD []

/-- The identifiers of the descendants of a node in pre-order; none for an identifier of no node. -/
def descendantsOf (o : Outline) (id : NodeId) : List NodeId :=
  ((o.locate? id).map Place.descendants).getD []

theorem parentsOf_of_mem (h : p ∈ o.places) : o.parentsOf p.id = p.parents := by
  simp [parentsOf, locate?_of_mem h]

theorem childrenOf_of_mem (h : p ∈ o.places) : o.childrenOf p.id = p.children := by
  simp [childrenOf, locate?_of_mem h]

theorem descendantsOf_of_mem (h : p ∈ o.places) : o.descendantsOf p.id = p.descendants := by
  simp [descendantsOf, locate?_of_mem h]

/-- A change that keeps identifiers keeps what is above each node. -/
theorem parentsOf_of_map {o' : Outline} {f : Node → Node} (h : o'.forest = o.forest.map f)
    (hf : ∀ n, (f n).id = n.id) (id : NodeId) : o'.parentsOf id = o.parentsOf id := by
  have hparents : ∀ p : Place Node, (p.map f).parents = p.parents := by
    intro p
    rw [Place.parents, Place.map, List.map_map]
    exact List.map_congr_left fun n _ => hf n
  unfold parentsOf
  rw [locate?_of_map h hf, Option.map_map]
  exact congrArg (·.getD []) (Option.map_congr fun p _ => hparents p)

/-- A change that keeps identifiers keeps what is below each node. -/
theorem descendantsOf_of_map {o' : Outline} {f : Node → Node} (h : o'.forest = o.forest.map f)
    (hf : ∀ n, (f n).id = n.id) (id : NodeId) : o'.descendantsOf id = o.descendantsOf id := by
  have hdescendants : ∀ p : Place Node, (p.map f).descendants = p.descendants := by
    intro p
    rw [Place.descendants, Place.map, Forest.preorder_map, List.map_map]
    exact List.map_congr_left fun n _ => hf n
  unfold descendantsOf
  rw [locate?_of_map h hf, Option.map_map]
  exact congrArg (·.getD []) (Option.map_congr fun p _ => hdescendants p)

/-! ## Ancestors and descendants -/

/-- What is listed at the place that an identifier leads to is listed at a place of the outline. -/
theorem exists_place_of_mem {list : Place Node → List NodeId} {x : NodeId}
    (h : x ∈ ((o.locate? id).map list).getD []) : ∃ p ∈ o.places, p.id = id ∧ x ∈ list p := by
  cases hl : o.locate? id with
  | none =>
    rw [hl] at h
    cases h
  | some p =>
    obtain ⟨hp, hid⟩ := locate?_eq_some_iff.1 hl
    rw [hl] at h
    exact ⟨p, hp, hid, h⟩

theorem descendants_eq_map_places (p : Place Node) :
    p.descendants = (p.below.placesBelow (p.node :: p.above)).map Place.id := by
  rw [Place.descendants, ← Forest.map_node_placesBelow (p.node :: p.above), List.map_map]
  rfl

/-- A node has the descendants that it is an ancestor of. -/
theorem mem_descendantsOf_iff {id id' : NodeId} : id ∈ o.descendantsOf id' ↔ id' ∈ o.parentsOf id := by
  constructor
  · intro h
    obtain ⟨p, hp, rfl, hm⟩ := exists_place_of_mem h
    rw [descendants_eq_map_places] at hm
    obtain ⟨q, hq, rfl⟩ := List.mem_map.1 hm
    have habove : p.node ∈ q.above := (Forest.suffix_above hq).subset List.mem_cons_self
    rw [parentsOf_of_mem (Forest.placesBelow_trans hp hq)]
    exact List.mem_map_of_mem habove
  · intro h
    obtain ⟨q, hq, rfl, hm⟩ := exists_place_of_mem h
    obtain ⟨a, ha, rfl⟩ := List.mem_map.1 hm
    rcases Forest.mem_above_cases hq ha with hnil | ⟨p, hp, rfl, hbelow⟩
    · cases hnil
    · have hdescendants : o.descendantsOf p.node.id = p.descendants := descendantsOf_of_mem hp
      rw [hdescendants, descendants_eq_map_places]
      exact List.mem_map_of_mem hbelow

theorem mem_ids_of_mem_descendantsOf {id' : NodeId} (h : id ∈ o.descendantsOf id') : id ∈ o.ids := by
  obtain ⟨p, hp, rfl, hbelow⟩ := exists_place_of_mem h
  rw [descendants_eq_map_places] at hbelow
  obtain ⟨q, hq, rfl⟩ := List.mem_map.1 hbelow
  exact mem_ids_iff_places.2 ⟨q, Forest.placesBelow_trans hp hq, rfl⟩

theorem mem_ids_of_mem_parentsOf {id' : NodeId} (h : id' ∈ o.parentsOf id) : id' ∈ o.ids := by
  obtain ⟨q, hq, rfl, habove⟩ := exists_place_of_mem h
  obtain ⟨a, ha, rfl⟩ := List.mem_map.1 habove
  rcases Forest.mem_above_cases hq ha with hnil | ⟨p, hp, rfl, -⟩
  · cases hnil
  · exact mem_ids_iff_places.2 ⟨p, hp, rfl⟩

/-- What is below a descendant is a descendant. -/
theorem descendantsOf_trans {a x : NodeId} (ha : a ∈ o.descendantsOf id) (hx : x ∈ o.descendantsOf a) :
    x ∈ o.descendantsOf id := by
  obtain ⟨p, hp, rfl, hbelow⟩ := exists_place_of_mem ha
  rw [descendants_eq_map_places] at hbelow
  obtain ⟨q, hq, rfl⟩ := List.mem_map.1 hbelow
  rw [descendantsOf_of_mem (Forest.placesBelow_trans hp hq), descendants_eq_map_places] at hx
  obtain ⟨r, hr, rfl⟩ := List.mem_map.1 hx
  rw [descendantsOf_of_mem hp, descendants_eq_map_places]
  exact List.mem_map_of_mem (Forest.placesBelow_trans hq hr)

/-- The identifiers of the ancestors of a node, nearest first, of itself, and of its descendants in pre-order. -/
def lineage (o : Outline) (id : NodeId) : List NodeId := o.parentsOf id ++ id :: o.descendantsOf id

theorem mem_lineage {x : NodeId} : x ∈ o.lineage id ↔ x ∈ o.parentsOf id ∨ x = id ∨ x ∈ o.descendantsOf id := by
  rw [lineage, List.mem_append, List.mem_cons]

/-- An ancestor of a descendant is in the lineage. -/
theorem mem_lineage_of_mem_parentsOf {a x : NodeId} (hx : x ∈ o.descendantsOf id) (ha : a ∈ o.parentsOf x) :
    a ∈ o.lineage id := by
  obtain ⟨p, hp, rfl, hbelow⟩ := exists_place_of_mem hx
  rw [descendants_eq_map_places] at hbelow
  obtain ⟨q, hq, rfl⟩ := List.mem_map.1 hbelow
  rw [parentsOf_of_mem (Forest.placesBelow_trans hp hq)] at ha
  obtain ⟨n, hn, rfl⟩ := List.mem_map.1 ha
  rw [mem_lineage, parentsOf_of_mem hp, descendantsOf_of_mem hp, descendants_eq_map_places]
  rcases Forest.mem_above_cases hq hn with hn | ⟨r, hr, rfl, -⟩
  · rcases List.mem_cons.1 hn with rfl | hn
    · exact Or.inr (Or.inl rfl)
    · exact Or.inl (List.mem_map_of_mem hn)
  · exact Or.inr (Or.inr (List.mem_map_of_mem hr))

/-- The descendants of a node are the part of the pre-order that directly follows it. -/
theorem ids_split (h : id ∈ o.ids) :
    ∃ before after, o.ids = before ++ id :: (o.descendantsOf id ++ after) := by
  obtain ⟨p, hp, rfl⟩ := mem_ids_iff_places.1 h
  obtain ⟨before, after, he⟩ := Forest.placesBelow_split hp
  have hplaces : o.places = _ := he
  refine ⟨before.map Place.id, after.map Place.id, ?_⟩
  rw [descendantsOf_of_mem hp, descendants_eq_map_places, ← map_id_places, hplaces]
  simp

theorem not_mem_descendantsOf_self (o : Outline) (id : NodeId) : id ∉ o.descendantsOf id := by
  intro h
  obtain ⟨before, after, he⟩ := ids_split (mem_ids_of_mem_descendantsOf h)
  have hnodup : o.ids.Nodup := o.nodup
  rw [he, List.nodup_append, List.nodup_cons] at hnodup
  exact hnodup.2.1.1 (List.mem_append_left _ h)

/-- A node of the outline is at the top, or its ancestors are its parent and the ancestors of that. -/
theorem parentsOf_cases (h : id ∈ o.ids) :
    (id ∈ o.top ∧ o.parentsOf id = []) ∨
    ∃ parent ∈ o.ids, id ∈ o.childrenOf parent ∧ o.parentsOf id = parent :: o.parentsOf parent := by
  obtain ⟨q, hq, rfl⟩ := mem_ids_iff_places.1 h
  rw [parentsOf_of_mem hq]
  rcases Forest.parent_cases hq with ⟨habove, hroot⟩ | ⟨p, hp, habove, hroot⟩
  · exact Or.inl ⟨List.mem_map_of_mem hroot, by rw [Place.parents, habove]; rfl⟩
  · refine Or.inr ⟨p.id, mem_ids_iff_places.2 ⟨p, hp, rfl⟩, ?_, ?_⟩
    · rw [childrenOf_of_mem hp]
      exact List.mem_map_of_mem hroot
    · rw [parentsOf_of_mem hp, Place.parents, habove]
      rfl

end Outline

end LoopSurvey
