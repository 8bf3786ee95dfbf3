import LoopSurvey.Proofs.Outline.Places
/-!
# Growing an outline

An outline grows by calls, each of which adds a node or is refused (`Outline.growAll`). Which calls are
refused can be told from the identifiers of those accepted before (`Insertion.refusal?`). An accepted call
adds its node as the last child of its parent and leaves the other nodes where they are
(`inserted_of_insert`), so the outline holds the accepted nodes with siblings in the order of their calls
(`GrownFrom`), and the refused calls leave no trace (`growAll_accepted`).
-/

namespace LoopSurvey

namespace Forest

variable {p : α → Bool} {a : α} {t t' : Forest α} {above : List α}

/-! ## Forests after an insertion -/

theorem roots_push (a : α) (t : Forest α) : (t.push a).roots = t.roots ++ [a] := by
  induction t with
  | nil => rfl
  | cons b children rest _ ihr => simp [push, roots, ihr]

theorem placesBelow_push (a : α) (above : List α) (t : Forest α) :
    (t.push a).placesBelow above = t.placesBelow above ++ [⟨a, above, nil⟩] := by
  induction t generalizing above with
  | nil => rfl
  | cons b children rest _ ihr => simp [push, placesBelow, ihr]

/-- There is a place to insert below just if some node has the property. -/
theorem isSome_pushBelow? (p : α → Bool) (a : α) (t : Forest α) :
    (t.pushBelow? p a).isSome = t.any p := by
  induction t with
  | nil => rfl
  | cons b children rest ihc ihr =>
    unfold pushBelow? any
    rw [← ihc, ← ihr]
    cases p b with
    | true => rfl
    | false => cases children.pushBelow? p a <;> simp

/-- What an insertion below a node with a property comes to in a forest with a first tree. -/
theorem pushBelow?_cons {b : α} {children rest : Forest α}
    (h : (cons b children rest).pushBelow? p a = some t') :
    (p b = true ∧ t' = cons b (children.push a) rest) ∨
    (p b = false ∧ ∃ children', children.pushBelow? p a = some children' ∧ t' = cons b children' rest) ∨
    (p b = false ∧ ∃ rest', rest.pushBelow? p a = some rest' ∧ t' = cons b children rest') := by
  unfold pushBelow? at h
  split at h
  · next hb =>
    cases h
    exact Or.inl ⟨hb, rfl⟩
  · next hb =>
    have hb : p b = false := by simpa using hb
    split at h
    · next children' hc =>
      cases h
      exact Or.inr (Or.inl ⟨hb, children', hc, rfl⟩)
    · obtain ⟨rest', hr, rfl⟩ := Option.map_eq_some_iff.1 h
      exact Or.inr (Or.inr ⟨hb, rest', hr, rfl⟩)

theorem roots_pushBelow? (h : t.pushBelow? p a = some t') : t'.roots = t.roots := by
  induction t generalizing t' with
  | nil => cases h
  | cons b children rest _ ihr =>
    rcases pushBelow?_cons h with ⟨-, rfl⟩ | ⟨-, children', -, rfl⟩ | ⟨-, rest', hr, rfl⟩
    · rfl
    · rfl
    · rw [roots, roots, ihr hr]

theorem countP_pos_of_pushBelow? (h : t.pushBelow? p a = some t') : 0 < t.preorder.countP p := by
  have hany := isSome_pushBelow? p a t
  rw [h, any_eq] at hany
  obtain ⟨b, hb, hp⟩ := List.any_eq_true.1 hany.symm
  exact List.countP_pos_iff.2 ⟨b, hb, hp⟩

/-- A place of a forest in which no node has a property. -/
theorem eq_false_of_mem_placesBelow {q : Place α} (hp : t.preorder.countP p = 0)
    (hq : q ∈ t.placesBelow above) : p q.node = false := by
  have hnode : q.node ∈ t.preorder := map_node_placesBelow above t ▸ List.mem_map_of_mem hq
  simpa using List.countP_eq_zero.1 hp _ hnode

/-- After an insertion below the one node with a property there is a place for the new node, and all other
places are as before, but for what is below them: that node has one more child. -/
theorem mem_placesBelow_pushBelow? (h : t.pushBelow? p a = some t') (hp : t.preorder.countP p ≤ 1)
    {q' : Place α} (hq : q' ∈ t'.placesBelow above) :
    (∃ q ∈ t.placesBelow above, p q.node = true ∧ q' = ⟨a, q.node :: q.above, nil⟩) ∨
    ∃ q ∈ t.placesBelow above, q'.node = q.node ∧ q'.above = q.above ∧
      q'.below.roots = q.below.roots ++ if p q.node then [a] else [] := by
  induction t generalizing t' above with
  | nil => cases h
  | cons b children rest ihc ihr =>
    simp only [preorder, List.countP_cons, List.countP_append] at hp
    simp only [placesBelow, List.mem_cons, List.mem_append]
    -- the node with the property is the root, or it is among the children only, or in the rest only
    rcases pushBelow?_cons h with ⟨hb, rfl⟩ | ⟨hb, children', hc, rfl⟩ | ⟨hb, rest', hr, rfl⟩
    · rw [if_pos hb] at hp
      simp only [placesBelow, placesBelow_push, List.mem_cons, List.mem_append, List.not_mem_nil,
        or_false] at hq
      rcases hq with rfl | (hq | rfl) | hq
      · exact Or.inr ⟨⟨b, above, children⟩, Or.inl rfl, rfl, rfl, by simp [roots_push, hb]⟩
      · exact Or.inr ⟨q', Or.inr (Or.inl hq), rfl, rfl,
          by simp [eq_false_of_mem_placesBelow (p := p) (by omega) hq]⟩
      · exact Or.inl ⟨⟨b, above, children⟩, Or.inl rfl, hb, rfl⟩
      · exact Or.inr ⟨q', Or.inr (Or.inr hq), rfl, rfl,
          by simp [eq_false_of_mem_placesBelow (p := p) (by omega) hq]⟩
    · have hpos := countP_pos_of_pushBelow? hc
      simp only [placesBelow, List.mem_cons, List.mem_append] at hq
      rcases hq with rfl | hq | hq
      · exact Or.inr ⟨⟨b, above, children⟩, Or.inl rfl, rfl, rfl, by simp [roots_pushBelow? hc, hb]⟩
      · rcases ihc hc (by omega) hq with ⟨q, hmem, hnew⟩ | ⟨q, hmem, hold⟩
        · exact Or.inl ⟨q, Or.inr (Or.inl hmem), hnew⟩
        · exact Or.inr ⟨q, Or.inr (Or.inl hmem), hold⟩
      · exact Or.inr ⟨q', Or.inr (Or.inr hq), rfl, rfl,
          by simp [eq_false_of_mem_placesBelow (p := p) (by omega) hq]⟩
    · have hpos := countP_pos_of_pushBelow? hr
      simp only [placesBelow, List.mem_cons, List.mem_append] at hq
      rcases hq with rfl | hq | hq
      · exact Or.inr ⟨⟨b, above, children⟩, Or.inl rfl, rfl, rfl, by simp [hb]⟩
      · exact Or.inr ⟨q', Or.inr (Or.inl hq), rfl, rfl,
          by simp [eq_false_of_mem_placesBelow (p := p) (by omega) hq]⟩
      · rcases ihr hr (by omega) hq with ⟨q, hmem, hnew⟩ | ⟨q, hmem, hold⟩
        · exact Or.inl ⟨q, Or.inr (Or.inr hmem), hnew⟩
        · exact Or.inr ⟨q, Or.inr (Or.inr hmem), hold⟩

end Forest

/-! ## Calls -/

/-- A call to add a node below a parent, or at the top. -/
structure Insertion where
  parent : Option NodeId
  node : Node

namespace Insertion

/-- The identifier of the node to add. -/
def id (i : Insertion) : NodeId := i.node.id

/-- Why a call is refused where the known identifiers are those of nodes: its own is known already, or that
of the parent is not known. -/
def refusal? (known : List NodeId) (i : Insertion) : Option InsertError :=
  if i.id ∈ known then some (.duplicateId i.id)
  else match i.parent with
    | none => none
    | some p => if p ∈ known then none else some (.unknownParent i.id p)

/-- The accepted calls after one more. -/
def accept (earlier : List Insertion) (i : Insertion) : List Insertion :=
  if i.refusal? (earlier.map id) = none then earlier ++ [i] else earlier

/-- The calls that are accepted, in order. -/
def accepted (calls : List Insertion) : List Insertion := calls.foldl accept []

/-- The identifiers of the nodes put below a parent, or at the top, in the order of the calls. -/
def siblings (parent : Option NodeId) (calls : List Insertion) : List NodeId :=
  (calls.filter (·.parent = parent)).map id

theorem siblings_append (parent : Option NodeId) (calls : List Insertion) (i : Insertion) :
    siblings parent (calls ++ [i]) =
      siblings parent calls ++ if i.parent = parent then [i.id] else [] := by
  unfold siblings
  rw [List.filter_append, List.map_append]
  by_cases h : i.parent = parent <;> simp [h]

end Insertion

namespace Outline

variable {o o' : Outline} {i : Insertion} {calls : List Insertion}

/-- The outline after a call. -/
def grow (o : Outline) (i : Insertion) : Outline := (o.insert i.parent i.node).1

/-- The outline after calls, first one first. -/
def growAll (o : Outline) (calls : List Insertion) : Outline := calls.foldl grow o

/-! ## One call -/

theorem countP_id_le_one (o : Outline) (id : NodeId) : o.forest.preorder.countP (·.id = id) ≤ 1 := by
  have hcount := List.nodup_iff_count_le_one.1 o.nodup id
  rw [List.count, List.countP_map] at hcount
  exact hcount

/-- The forest after an accepted call. -/
theorem forest_of_insert (h : o.insert i.parent i.node = (o', .ok ())) :
    i.id ∉ o.ids ∧ ((i.parent = none ∧ o'.forest = o.forest.push i.node) ∨
      ∃ p, i.parent = some p ∧ o.forest.pushBelow? (·.id = p) i.node = some o'.forest) := by
  unfold insert at h
  split at h
  · cases h
  · next hn =>
    refine ⟨fun hmem => hn (contains_iff.2 hmem), ?_⟩
    split at h
    · cases h
      exact Or.inl ⟨by assumption, rfl⟩
    · next p hp =>
      split at h
      · next t ht =>
        cases h
        exact Or.inr ⟨p, hp, ht⟩
      · cases h

/-- A place at which a call puts its node: it has no children, and it is at the top or hangs from the place of
the parent. -/
structure Hangs (o : Outline) (i : Insertion) (q : Place Node) : Prop where
  id_eq : q.id = i.id
  children_eq : q.children = []
  parents_top : i.parent = none → q.parents = []
  parents_below : ∀ p, i.parent = some p → ∃ r ∈ o.places, r.id = p ∧ q.parents = p :: r.parents

/-- A place that a call leaves alone, but for one more child if it is that of the parent. -/
structure Stays (i : Insertion) (q q' : Place Node) : Prop where
  id_eq : q'.id = q.id
  parents_eq : q'.parents = q.parents
  children_eq : q'.children = q.children ++ if i.parent = some q.id then [i.id] else []

/-- After an accepted call there is a place for the new node, and all other places stay. -/
theorem place_cases_of_insert (h : o.insert i.parent i.node = (o', .ok ())) {q' : Place Node}
    (hq : q' ∈ o'.places) : Hangs o i q' ∨ ∃ q ∈ o.places, Stays i q q' := by
  obtain ⟨-, ⟨hp, ht⟩ | ⟨p, hp, ht⟩⟩ := forest_of_insert h
  · rw [places, Forest.places, ht, Forest.placesBelow_push, List.mem_append, List.mem_singleton] at hq
    rcases hq with hq | rfl
    · exact Or.inr ⟨q', hq, rfl, rfl, by simp [hp]⟩
    · exact Or.inl ⟨rfl, rfl, fun _ => rfl, fun p hp' => nomatch hp.symm.trans hp'⟩
  · have hone := countP_id_le_one o p
    rcases Forest.mem_placesBelow_pushBelow? ht hone hq with
      ⟨q, hmem, hid, rfl⟩ | ⟨q, hmem, hnode, habove, hroots⟩
    · have hid : q.id = p := of_decide_eq_true hid
      refine Or.inl ⟨rfl, rfl, fun hp' => (nomatch hp.symm.trans hp'), fun p' hp' => ?_⟩
      cases hp.symm.trans hp'
      exact ⟨q, hmem, hid, hid ▸ rfl⟩
    · refine Or.inr ⟨q, hmem, congrArg Node.id hnode, by rw [Place.parents, habove, Place.parents], ?_⟩
      rw [Place.children, hroots, List.map_append, Place.children, hp]
      by_cases hid : p = q.node.id <;> simp [Place.id, Insertion.id, hid, eq_comm]

theorem nodes_perm_of_insert (h : o.insert i.parent i.node = (o', .ok ())) :
    o'.nodes.Perm (i.node :: o.nodes) := by
  obtain ⟨-, ⟨-, ht⟩ | ⟨p, -, ht⟩⟩ := forest_of_insert h
  · rw [nodes, ht, Forest.preorder_push]
    exact List.perm_append_singleton _ _
  · exact Forest.perm_pushBelow? ht

theorem mem_ids_of_insert (h : o.insert i.parent i.node = (o', .ok ())) {id : NodeId} :
    id ∈ o'.ids ↔ id = i.id ∨ id ∈ o.ids := by
  have hids : o'.ids.Perm (i.id :: o.ids) := (nodes_perm_of_insert h).map Node.id
  rw [hids.mem_iff, List.mem_cons]

theorem exists_hangs_of_insert (h : o.insert i.parent i.node = (o', .ok ())) : ∃ q ∈ o'.places, Hangs o i q := by
  obtain ⟨q', hq', hid'⟩ := mem_ids_iff_places.1 ((mem_ids_of_insert h).2 (Or.inl rfl))
  rcases place_cases_of_insert h hq' with hnew | ⟨q, hq, hold⟩
  · exact ⟨q', hq', hnew⟩
  · have hmem : i.id ∈ o.ids := mem_ids_iff_places.2 ⟨q, hq, hold.id_eq.symm.trans hid'⟩
    exact absurd hmem (forest_of_insert h).1

theorem exists_stays_of_insert (h : o.insert i.parent i.node = (o', .ok ())) {q : Place Node} (hq : q ∈ o.places) :
    ∃ q' ∈ o'.places, Stays i q q' := by
  have hmem : q.id ∈ o.ids := mem_ids_iff_places.2 ⟨q, hq, rfl⟩
  obtain ⟨q', hq', hid'⟩ := mem_ids_iff_places.1 ((mem_ids_of_insert h).2 (Or.inr hmem))
  rcases place_cases_of_insert h hq' with hnew | ⟨r, hr, hold⟩
  · exact absurd (hid'.symm.trans hnew.id_eq ▸ hmem) (forest_of_insert h).1
  · obtain rfl : r = q := place_eq_of_id_eq hr hq (hold.id_eq.symm.trans hid')
    exact ⟨q', hq', hold⟩

theorem top_of_insert (h : o.insert i.parent i.node = (o', .ok ())) :
    o'.top = o.top ++ if i.parent = none then [i.id] else [] := by
  obtain ⟨-, ⟨hp, ht⟩ | ⟨p, hp, ht⟩⟩ := forest_of_insert h
  · rw [top, ht, Forest.roots_push, List.map_append, top, if_pos hp]
    rfl
  · rw [top, Forest.roots_pushBelow? ht, top, hp]
    simp

/-- What an accepted call does: the node is new and its parent is known; it becomes the last child of that
parent, without children of its own, and the ancestors and children of the other nodes stay. -/
structure Inserted (o o' : Outline) (i : Insertion) : Prop where
  fresh : i.id ∉ o.ids
  known : ∀ p, i.parent = some p → p ∈ o.ids
  nodes_perm : o'.nodes.Perm (i.node :: o.nodes)
  top_eq : o'.top = o.top ++ if i.parent = none then [i.id] else []
  childrenOf_new : o'.childrenOf i.id = []
  childrenOf_old : ∀ id ∈ o.ids,
    o'.childrenOf id = o.childrenOf id ++ if i.parent = some id then [i.id] else []
  parentsOf_top : i.parent = none → o'.parentsOf i.id = []
  parentsOf_below : ∀ p, i.parent = some p → o'.parentsOf i.id = p :: o.parentsOf p
  parentsOf_old : ∀ id ∈ o.ids, o'.parentsOf id = o.parentsOf id

theorem inserted_of_insert (h : o.insert i.parent i.node = (o', .ok ())) : Inserted o o' i := by
  obtain ⟨q, hq, hnew⟩ := exists_hangs_of_insert h
  constructor
  case fresh => exact (forest_of_insert h).1
  case known =>
    intro p hp
    obtain ⟨r, hr, hid, -⟩ := hnew.parents_below p hp
    exact mem_ids_iff_places.2 ⟨r, hr, hid⟩
  case nodes_perm => exact nodes_perm_of_insert h
  case top_eq => exact top_of_insert h
  case childrenOf_new => rw [← hnew.id_eq, childrenOf_of_mem hq, hnew.children_eq]
  case childrenOf_old =>
    intro id hid
    obtain ⟨r, hr, rfl⟩ := mem_ids_iff_places.1 hid
    obtain ⟨r', hr', hold⟩ := exists_stays_of_insert h hr
    rw [childrenOf_of_mem hr, ← hold.children_eq, ← childrenOf_of_mem hr', hold.id_eq]
  case parentsOf_top =>
    intro hp
    rw [← hnew.id_eq, parentsOf_of_mem hq, hnew.parents_top hp]
  case parentsOf_below =>
    intro p hp
    obtain ⟨r, hr, rfl, hparents⟩ := hnew.parents_below p hp
    rw [← hnew.id_eq, parentsOf_of_mem hq, hparents, parentsOf_of_mem hr]
  case parentsOf_old =>
    intro id hid
    obtain ⟨r, hr, rfl⟩ := mem_ids_iff_places.1 hid
    obtain ⟨r', hr', hold⟩ := exists_stays_of_insert h hr
    rw [parentsOf_of_mem hr, ← hold.parents_eq, ← parentsOf_of_mem hr', hold.id_eq]

/-- Which calls are refused, and why. -/
theorem insert_error_iff {e : InsertError} :
    (o.insert i.parent i.node).2 = .error e ↔ i.refusal? o.ids = some e := by
  have hcontains : o.contains i.node.id = true ↔ i.id ∈ o.ids := contains_iff
  unfold insert Insertion.refusal?
  split
  · next hn =>
    rw [if_pos (hcontains.1 hn)]
    simp [Insertion.id]
  · next hn =>
    rw [if_neg fun hmem => hn (hcontains.2 hmem)]
    cases hp : i.parent with
    | none => simp
    | some p =>
      have hknown : (o.forest.pushBelow? (·.id = p) i.node).isSome = true ↔ p ∈ o.ids := by
        rw [Forest.isSome_pushBelow?]
        exact contains_iff
      dsimp only
      split
      · next t ht => rw [if_pos (hknown.1 (by rw [ht]; rfl))]; simp
      · next ht =>
        rw [if_neg fun hmem => by rw [ht] at hknown; cases hknown.2 hmem]
        simp [Insertion.id]

/-- A refused call changes nothing. -/
theorem insert_of_error {e : InsertError} (h : (o.insert i.parent i.node).2 = .error e) :
    (o.insert i.parent i.node).1 = o := by
  unfold insert at h ⊢
  split
  · rfl
  · next hn =>
    rw [dif_neg hn] at h
    cases hp : i.parent with
    | none =>
      rw [hp] at h
      cases h
    | some p =>
      rw [hp] at h
      dsimp only at h ⊢
      split
      · next t ht =>
        split at h
        · cases h
        · next hnone => cases ht.symm.trans hnone
      · rfl

theorem insert_grow (h : i.refusal? o.ids = none) : o.insert i.parent i.node = (o.grow i, .ok ()) := by
  have hresult : (o.insert i.parent i.node).2 = .ok () := by
    cases hr : (o.insert i.parent i.node).2 with
    | ok u => rfl
    | error e =>
      rw [insert_error_iff, h] at hr
      cases hr
  rw [← hresult]
  rfl

/-! ## All calls -/

/-- An outline holds the nodes of the calls that were accepted, each below its parent, the children of a
parent in the order of the calls. -/
structure GrownFrom (o : Outline) (accepted : List Insertion) : Prop where
  nodes_perm : o.nodes.Perm (accepted.map Insertion.node)
  known : ∀ i ∈ accepted, ∀ p, i.parent = some p → p ∈ o.ids
  top_eq : o.top = Insertion.siblings none accepted
  childrenOf_eq : ∀ id ∈ o.ids, o.childrenOf id = Insertion.siblings (some id) accepted
  parentsOf_top : ∀ i ∈ accepted, i.parent = none → o.parentsOf i.id = []
  parentsOf_below : ∀ i ∈ accepted, ∀ p, i.parent = some p → o.parentsOf i.id = p :: o.parentsOf p

theorem GrownFrom.ids_perm (h : o.GrownFrom calls) : o.ids.Perm (calls.map Insertion.id) := by
  have hids := h.nodes_perm.map Node.id
  rwa [List.map_map] at hids

theorem GrownFrom.mem_ids (h : o.GrownFrom calls) (hi : i ∈ calls) : i.id ∈ o.ids :=
  h.ids_perm.mem_iff.2 (List.mem_map_of_mem hi)

theorem grownFrom_empty : empty.GrownFrom [] where
  nodes_perm := List.Perm.refl _
  known := by simp
  top_eq := rfl
  childrenOf_eq := fun id hid => nomatch hid
  parentsOf_top := by simp
  parentsOf_below := by simp

/-- One more accepted call. -/
theorem GrownFrom.inserted (h : o.GrownFrom calls) (hi : Inserted o o' i) :
    o'.GrownFrom (calls ++ [i]) := by
  have hids : o'.ids.Perm (i.id :: o.ids) := hi.nodes_perm.map Node.id
  have hmem : ∀ id ∈ o.ids, id ∈ o'.ids := fun id hid => hids.mem_iff.2 (List.mem_cons_of_mem _ hid)
  constructor
  case nodes_perm =>
    rw [List.map_append]
    exact hi.nodes_perm.trans ((h.nodes_perm.cons _).trans (List.perm_append_singleton _ _).symm)
  case known =>
    intro j hj p hp
    rcases List.mem_append.1 hj with hj | hj
    · exact hmem p (h.known j hj p hp)
    · rw [List.mem_singleton.1 hj] at hp
      exact hmem p (hi.known p hp)
  case top_eq => rw [hi.top_eq, h.top_eq, Insertion.siblings_append]
  case childrenOf_eq =>
    intro id hid
    rw [Insertion.siblings_append]
    rcases List.mem_cons.1 (hids.mem_iff.1 hid) with rfl | hid
    · -- a new node has no children yet: no accepted call named it as a parent
      have hnone : Insertion.siblings (some i.id) calls = [] := by
        rw [Insertion.siblings, List.map_eq_nil_iff, List.filter_eq_nil_iff]
        intro j hj hp
        exact hi.fresh (h.known j hj _ (of_decide_eq_true hp))
      have hself : i.parent ≠ some i.id := fun hp => hi.fresh (hi.known _ hp)
      rw [hi.childrenOf_new, hnone, if_neg hself]
      rfl
    · rw [hi.childrenOf_old id hid, h.childrenOf_eq id hid]
  case parentsOf_top =>
    intro j hj hp
    rcases List.mem_append.1 hj with hj | hj
    · rw [hi.parentsOf_old _ (h.mem_ids hj), h.parentsOf_top j hj hp]
    · obtain rfl := List.mem_singleton.1 hj
      exact hi.parentsOf_top hp
  case parentsOf_below =>
    intro j hj p hp
    rcases List.mem_append.1 hj with hj | hj
    · rw [hi.parentsOf_old _ (h.mem_ids hj), hi.parentsOf_old p (h.known j hj p hp),
        h.parentsOf_below j hj p hp]
    · obtain rfl := List.mem_singleton.1 hj
      rw [hi.parentsOf_below p hp, hi.parentsOf_old p (hi.known p hp)]

theorem Insertion.refusal?_congr {known known' : List NodeId} (h : known.Perm known') (i : Insertion) :
    i.refusal? known = i.refusal? known' := by
  simp only [Insertion.refusal?, h.mem_iff]

/-- One call, accepted or not. -/
theorem GrownFrom.grow (h : o.GrownFrom calls) (i : Insertion) :
    (o.grow i).GrownFrom (Insertion.accept calls i) := by
  unfold Insertion.accept
  rw [← Insertion.refusal?_congr h.ids_perm i]
  cases hr : i.refusal? o.ids with
  | none => exact h.inserted (inserted_of_insert (insert_grow hr))
  | some e =>
    have hsame : o.grow i = o := insert_of_error (insert_error_iff.2 hr)
    rwa [hsame]

theorem GrownFrom.foldl (h : o.GrownFrom calls) (more : List Insertion) :
    (o.growAll more).GrownFrom (more.foldl Insertion.accept calls) := by
  induction more generalizing o calls with
  | nil => exact h
  | cons i rest ih => exact ih (h.grow i)

theorem grownFrom_growAll (calls : List Insertion) :
    (empty.growAll calls).GrownFrom (Insertion.accepted calls) := grownFrom_empty.foldl calls

/-- **Growing an outline.** After any calls, the next one is refused just if its identifier is that of an
accepted call, or if its parent is not, and then nothing changes. The outline lists each accepted node
once; the nodes at the top and those below a parent are in the order of their calls; the ancestors of a
node are its parent and the ancestors of that, and its descendants are the nodes that it is an ancestor
of, in the part of the pre-order that directly follows it. -/
theorem growAll_accepted (calls : List Insertion) :
    let o := empty.growAll calls
    let accepted := Insertion.accepted calls
    (∀ (i : Insertion) e, (o.insert i.parent i.node).2 = .error e ↔
      i.refusal? (accepted.map Insertion.id) = some e) ∧
    (∀ (i : Insertion) e, (o.insert i.parent i.node).2 = .error e → (o.insert i.parent i.node).1 = o ∧ ∀ after,
      empty.growAll (calls ++ i :: after) = empty.growAll (calls ++ after)) ∧
    o.nodes.Perm (accepted.map Insertion.node) ∧ o.ids.Nodup ∧
    o.top = Insertion.siblings none accepted ∧
    (∀ id ∈ o.ids, o.childrenOf id = Insertion.siblings (some id) accepted) ∧
    (∀ i ∈ accepted, i.parent = none → o.parentsOf i.id = []) ∧
    (∀ i ∈ accepted, ∀ p, i.parent = some p → o.parentsOf i.id = p :: o.parentsOf p) ∧
    (∀ id id', id ∈ o.descendantsOf id' ↔ id' ∈ o.parentsOf id) ∧
    ∀ id ∈ o.ids, ∃ before after, o.ids = before ++ id :: (o.descendantsOf id ++ after) := by
  intro o accepted
  have h : o.GrownFrom accepted := grownFrom_growAll calls
  refine ⟨fun i e => ?_, fun i e he => ?_, h.nodes_perm, o.nodup, h.top_eq, h.childrenOf_eq,
    h.parentsOf_top, h.parentsOf_below, fun _ _ => mem_descendantsOf_iff, fun _ => ids_split⟩
  · rw [insert_error_iff, Insertion.refusal?_congr h.ids_perm]
  · have hskip : o.grow i = o := insert_of_error he
    refine ⟨hskip, fun after => ?_⟩
    rw [growAll, List.foldl_append, List.foldl_cons, growAll, List.foldl_append]
    exact congrArg (after.foldl grow) hskip

end Outline

end LoopSurvey
