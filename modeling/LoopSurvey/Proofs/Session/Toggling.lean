import LoopSurvey.Proofs.Outline.Opening
import LoopSurvey.Proofs.Session.Operation
import LoopSurvey.Sample.Pair
/-!
# Opening and closing on the screen

A node is opened or closed alone, or together with all below it (`Session.Toggle`). Each of these changes nodes at or
below that node only, so what is visible elsewhere stays so (`isVisible_setOpened_of_not_below`), and below a node that
is not visible nothing is (`isVisible_of_below`). Rows come in pre-order, and there the descendants of a node follow it
(`places_split`). So at most the rows below the node change, in one place of the list (`rows_toggle`).
-/

namespace LoopSurvey

namespace Outline

variable {o : Outline} {p : Place Node} {ids : List NodeId} {id x : NodeId} {b : Bool}

/-! ## What stays visible -/

/-- What is above a visible node is visible. -/
theorem isVisible_of_below (hx : x ∈ o.descendantsOf id) (h : o.isVisible x = true) : o.isVisible id = true := by
  rw [isVisible_iff_opened] at h ⊢
  have hid : id ∈ o.ids := mem_ids_of_mem_parentsOf (mem_descendantsOf_iff.1 hx)
  refine ⟨hid, fun a ha => h.2 a ?_⟩
  exact mem_descendantsOf_iff.1 (descendantsOf_trans (mem_descendantsOf_iff.2 ha) hx)

/-- Opening and closing at and below a node does not matter elsewhere. -/
theorem isVisible_setOpened_of_not_below (h : ids ⊆ id :: o.descendantsOf id) (hx : x ∉ o.descendantsOf id) :
    (o.setOpened ids b).isVisible x = o.isVisible x := by
  refine isVisible_setOpened_of_above fun a ha hmem => hx ?_
  have hbelow : x ∈ o.descendantsOf a := mem_descendantsOf_iff.2 ha
  rcases List.mem_cons.1 (h hmem) with rfl | hmem
  · exact hbelow
  · exact descendantsOf_trans hmem hbelow

/-- Opening and closing at and below a node that is not visible does not matter at all. -/
theorem isVisible_setOpened_of_hidden (h : ids ⊆ id :: o.descendantsOf id) (hid : o.isVisible id = false) (x : NodeId) :
    (o.setOpened ids b).isVisible x = o.isVisible x := by
  by_cases hx : x ∈ o.descendantsOf id
  · have hafter : (o.setOpened ids b).isVisible id = false :=
      (isVisible_setOpened_of_not_below h (o.not_mem_descendantsOf_self id)).trans hid
    have hx' : x ∈ (o.setOpened ids b).descendantsOf id := by rwa [descendantsOf_setOpened]
    rw [Bool.eq_false_iff.2 fun hv => Bool.eq_false_iff.1 hafter (isVisible_of_below hx' hv),
      Bool.eq_false_iff.2 fun hv => Bool.eq_false_iff.1 hid (isVisible_of_below hx hv)]
  · exact isVisible_setOpened_of_not_below h hx

/-- Below a visible node everything is visible once the node and all below it are opened. -/
theorem isVisible_opened_below (hid : o.isVisible id = true) (hx : x ∈ o.descendantsOf id) :
    (o.setOpened (id :: o.descendantsOf id) true).isVisible x = true := by
  rw [isVisible_iff_opened, ids_setOpened, parentsOf_setOpened]
  refine ⟨mem_ids_of_mem_descendantsOf hx, fun a ha => mem_opened_open.2 ?_⟩
  rcases mem_lineage.1 (mem_lineage_of_mem_parentsOf hx ha) with habove | hat
  · exact Or.inl ((isVisible_iff_opened.1 hid).2 a habove)
  · exact Or.inr ⟨List.mem_cons.2 hat, mem_ids_of_mem_parentsOf ha⟩

/-- Below a closed node nothing is visible. -/
theorem isVisible_closed_below (hmem : id ∈ ids) (hx : x ∈ o.descendantsOf id) :
    (o.setOpened ids false).isVisible x = false := by
  rw [Bool.eq_false_iff]
  intro hv
  have hopened := (isVisible_iff_opened.1 hv).2 id (by rw [parentsOf_setOpened]; exact mem_descendantsOf_iff.1 hx)
  rw [mem_opened_setOpened, if_pos hmem] at hopened
  cases hopened.1

/-! ## The rows around a node -/

/-- A place is directly followed by the places below it, and these are nowhere else. -/
theorem places_split (h : p ∈ o.places) : ∃ before after,
    o.places = before ++ p :: (p.below.placesBelow (p.node :: p.above) ++ after) ∧
    ∀ q ∈ before ++ after, q.id ∉ p.descendants := by
  obtain ⟨before, after, he⟩ := Forest.placesBelow_split h
  have hplaces : o.places = _ := he
  have hnodup : (o.places.map Place.id).Nodup := by
    rw [map_id_places]
    exact o.nodup
  rw [hplaces] at hnodup
  simp only [List.map_append, List.map_cons, ← descendants_eq_map_places, List.nodup_append, List.nodup_cons] at hnodup
  obtain ⟨-, ⟨-, -, -, hafter⟩, hbefore⟩ := hnodup
  refine ⟨before, after, he, fun q hq hbelow => ?_⟩
  rcases List.mem_append.1 hq with hq | hq
  · exact hbefore q.id (List.mem_map_of_mem hq) q.id (List.mem_cons_of_mem _ (List.mem_append_left _ hbelow)) rfl
  · exact hafter q.id hbelow q.id (List.mem_map_of_mem hq) rfl

/-- The rows of those of some places whose nodes are visible. -/
def rowsAmong (o : Outline) (places : List (Place Node)) : List Row :=
  (places.filter fun q => o.isVisible q.id).map Place.row

theorem rows_eq_rowsAmong (o : Outline) : o.rows = o.rowsAmong o.places := by
  rw [rows_eq_map_row, rowsAmong, List.filter_congr fun q hq => (isVisible_of_mem hq).symm]

theorem rows_setOpened (o : Outline) (ids : List NodeId) (b : Bool) :
    (o.setOpened ids b).rows = (o.setOpened ids b).rowsAmong o.places :=
  rows_of_map (o.forest_setOpened ids b) fun _ => rfl

theorem rowsAmong_around (before below after : List (Place Node)) (h : o.isVisible p.id = true) :
    o.rowsAmong (before ++ p :: (below ++ after)) =
      o.rowsAmong before ++ p.row :: (o.rowsAmong below ++ o.rowsAmong after) := by
  simp only [rowsAmong, List.filter_append, List.filter_cons, h, if_true, List.map_append, List.map_cons]

/-- The identifiers of the rows below a node. -/
theorem map_id_rowsAmong_below (o : Outline) (p : Place Node) :
    (o.rowsAmong (p.below.placesBelow (p.node :: p.above))).map Row.id = p.descendants.filter o.isVisible := by
  rw [descendants_eq_map_places, rowsAmong, List.map_map, List.filter_map]
  rfl

theorem rowsAmong_setOpened {places : List (Place Node)} (h : ids ⊆ id :: o.descendantsOf id)
    (helsewhere : ∀ q ∈ places, q.id ∉ o.descendantsOf id) :
    (o.setOpened ids b).rowsAmong places = o.rowsAmong places := by
  rw [rowsAmong, List.filter_congr fun q hq => isVisible_setOpened_of_not_below h (helsewhere q hq)]
  rfl

/-- The rows around a visible node, before and after opening or closing at and below it. -/
theorem rows_setOpened_split (h : ids ⊆ id :: o.descendantsOf id) (hid : o.isVisible id = true) (b : Bool) :
    ∃ above below below' rest, o.rows = above ++ ⟨id, (o.parentsOf id).length⟩ :: (below ++ rest) ∧
      (o.setOpened ids b).rows = above ++ ⟨id, (o.parentsOf id).length⟩ :: (below' ++ rest) ∧
      (∀ row ∈ above ++ rest, row.id ∉ o.descendantsOf id) ∧
      below.map Row.id = (o.descendantsOf id).filter o.isVisible ∧
      below'.map Row.id = (o.descendantsOf id).filter (o.setOpened ids b).isVisible := by
  obtain ⟨p, hp, rfl⟩ := mem_ids_iff_places.1 (isVisible_iff.1 hid).1
  obtain ⟨before, after, he, helsewhere⟩ := places_split hp
  rw [← descendantsOf_of_mem hp] at helsewhere
  obtain ⟨hbefore, hafter⟩ := List.forall_mem_append.1 helsewhere
  have hrow : p.row = ⟨p.id, (o.parentsOf p.id).length⟩ := by
    rw [parentsOf_of_mem hp, Place.parents, List.length_map]
    rfl
  have hid' : (o.setOpened ids b).isVisible p.id = true :=
    (isVisible_setOpened_of_not_below h (o.not_mem_descendantsOf_self p.id)).trans hid
  refine ⟨o.rowsAmong before, o.rowsAmong (p.below.placesBelow (p.node :: p.above)),
    (o.setOpened ids b).rowsAmong (p.below.placesBelow (p.node :: p.above)), o.rowsAmong after, ?rows, ?rows',
    ?elsewhere, ?below, ?below'⟩
  case rows => rw [rows_eq_rowsAmong, he, rowsAmong_around before _ after hid, hrow]
  case rows' =>
    rw [rows_setOpened, he, rowsAmong_around before _ after hid', hrow, rowsAmong_setOpened h hbefore,
      rowsAmong_setOpened h hafter]
  case elsewhere =>
    intro row hrow
    rw [rowsAmong, rowsAmong, ← List.map_append, ← List.filter_append] at hrow
    obtain ⟨q, hq, rfl⟩ := List.mem_map.1 hrow
    exact helsewhere q (List.mem_of_mem_filter hq)
  case below => rw [map_id_rowsAmong_below, descendantsOf_of_mem hp]
  case below' => rw [map_id_rowsAmong_below, descendantsOf_of_mem hp]

/-- Where a node is not visible, opening and closing at and below it leaves the rows as they are. -/
theorem rows_setOpened_of_hidden (h : ids ⊆ id :: o.descendantsOf id) (hid : o.isVisible id = false) (b : Bool) :
    (o.setOpened ids b).rows = o.rows := by
  rw [rows_setOpened, rows_eq_rowsAmong, rowsAmong]
  rw [List.filter_congr fun q _ => isVisible_setOpened_of_hidden h hid q.id]
  rfl

end Outline

namespace Session

/-! ## Operations that open and close -/

/-- Opening or closing a node, alone or with all below it. -/
inductive Toggle
  | set (opened : Bool)
  | expandAll
  | collapseAll

/-- The operation on the node with an identifier. -/
def Toggle.operation (id : NodeId) : Toggle → Operation
  | set opened => .edit ⟨id, .setOpened opened⟩
  | expandAll => .expandAll id
  | collapseAll => .collapseAll id

variable (s : Session) (id : NodeId)

/-- An edit that opens or closes a node does this to the node that is there. -/
theorem outline_operate_set (opened : Bool) :
    (s.operate ((Toggle.set opened).operation id)).outline = s.outline.setOpened [id] opened := by
  cases hn : s.outline.node? id with
  | none =>
    have hmissing : s.outline.setOpened [id] opened = s.outline :=
      congrArg Prod.fst (Outline.changeOpened_of_not_mem (Outline.node?_eq_none_iff.1 hn))
    rw [hmissing]
    simp only [Toggle.operation, operate, edit, hn]
  | some n =>
    obtain ⟨-, rfl⟩ := Outline.node?_eq_some_iff.1 hn
    simp only [Toggle.operation, operate, edit, hn, applyChange]
    rfl

/-- The nodes that are opened or closed: one, or one and all below it. -/
def Toggle.nodes (o : Outline) (id : NodeId) : Toggle → List NodeId
  | set _ => [id]
  | expandAll => id :: o.descendantsOf id
  | collapseAll => id :: o.descendantsOf id

/-- Whether nodes are opened. -/
def Toggle.opens : Toggle → Bool
  | set opened => opened
  | expandAll => true
  | collapseAll => false

theorem Toggle.nodes_subset (t : Toggle) (o : Outline) (id : NodeId) : t.nodes o id ⊆ id :: o.descendantsOf id := by
  cases t with
  | set opened => exact List.cons_subset_cons id (List.nil_subset _)
  | expandAll => exact List.Subset.refl _
  | collapseAll => exact List.Subset.refl _

theorem outline_operate_toggle (t : Toggle) :
    (s.operate (t.operation id)).outline = s.outline.setOpened (t.nodes s.outline id) t.opens := by
  cases t with
  | set opened => exact s.outline_operate_set id opened
  | expandAll => exact congrArg Prod.fst (s.outline.changeSubtree_eq_changeOpened id true)
  | collapseAll => exact congrArg Prod.fst (s.outline.changeSubtree_eq_changeOpened id false)

/-- **Opening and closing is local on the screen.** The node is opened or closed by an edit, or expanded or collapsed
with all below it. Where it is not visible, the rows stay as they are. Where it is, its row stays, and so do the rows
before it and those after its descendants, of which none is of a descendant; between them there are before and
afterwards those of its descendants that are visible, in order. Once it is expanded these are all of them, and once it
is collapsed or closed there are none. Expanding and collapsing tell the number of nodes that change. -/
theorem rows_toggle (t : Toggle) :
    let o := s.outline
    let o' := (s.operate (t.operation id)).outline
    (o.isVisible id = false → o'.rows = o.rows) ∧
    (o.isVisible id = true → ∃ above below below' rest,
      o.rows = above ++ ⟨id, (o.parentsOf id).length⟩ :: (below ++ rest) ∧
      o'.rows = above ++ ⟨id, (o.parentsOf id).length⟩ :: (below' ++ rest) ∧
      (∀ row ∈ above ++ rest, row.id ∉ o.descendantsOf id) ∧
      below.map Row.id = (o.descendantsOf id).filter o.isVisible ∧
      below'.map Row.id = (o.descendantsOf id).filter o'.isVisible ∧
      (t = .expandAll → below'.map Row.id = o.descendantsOf id) ∧
      (t = .collapseAll ∨ t = .set false → below' = [])) ∧
    (o.expandAll id).2 = (o.flipped (o.expandAll id).1).length ∧
    (o.collapseAll id).2 = (o.flipped (o.collapseAll id).1).length := by
  intro o o'
  have ho' : o' = o.setOpened (t.nodes o id) t.opens := s.outline_operate_toggle id t
  have hsubset := t.nodes_subset o id
  refine ⟨fun hid => ?hidden, fun hid => ?visible, o.changeSubtree_snd id true, o.changeSubtree_snd id false⟩
  case hidden => rw [ho', Outline.rows_setOpened_of_hidden hsubset hid]
  case visible =>
    obtain ⟨above, below, below', rest, hrows, hrows', helsewhere, hbelow, hbelow'⟩ :=
      Outline.rows_setOpened_split hsubset hid t.opens
    rw [← ho'] at hrows' hbelow'
    refine ⟨above, below, below', rest, hrows, hrows', helsewhere, hbelow, hbelow', fun ht => ?expanded,
      fun ht => ?closed⟩
    case expanded =>
      subst ht
      rw [hbelow', List.filter_eq_self]
      exact fun x hx => ho' ▸ Outline.isVisible_opened_below hid hx
    case closed =>
      have hclosed : t.opens = false ∧ id ∈ t.nodes o id := by
        rcases ht with rfl | rfl <;> exact ⟨rfl, List.mem_cons_self⟩
      rw [← List.map_eq_nil_iff, hbelow', List.filter_eq_nil_iff]
      intro x hx
      rw [ho', hclosed.1, Outline.isVisible_closed_below hclosed.2 hx]
      exact Bool.false_ne_true

/-- The routine is collapsed, then nothing changes on the screen as its first loop, hidden by now, is opened. -/
theorem rows_toggle_pair :
    let s := Sample.pairSession
    let closed := s.operate (Toggle.collapseAll.operation Sample.routineId)
    let opened := closed.operate ((Toggle.set true).operation Sample.firstId)
    s.outline.isVisible Sample.routineId = true ∧
    (∃ above below rest, s.outline.rows = above ++ ⟨Sample.routineId, 0⟩ :: (below ++ rest) ∧
      closed.outline.rows = above ++ ⟨Sample.routineId, 0⟩ :: rest) ∧
    closed.outline.isVisible Sample.firstId = false ∧ opened.outline.rows = closed.outline.rows := by
  intro s closed opened
  have hvisible : s.outline.isVisible Sample.routineId = true := by decide
  have hhidden : closed.outline.isVisible Sample.firstId = false := by decide
  obtain ⟨above, below, below', rest, hrows, hrows', -, -, -, -, hclosed⟩ :=
    (s.rows_toggle Sample.routineId .collapseAll).2.1 hvisible
  rw [hclosed (Or.inl rfl)] at hrows'
  exact ⟨hvisible, ⟨above, below, rest, hrows, hrows'⟩, hhidden,
    (closed.rows_toggle Sample.firstId (.set true)).1 hhidden⟩

end Session

end LoopSurvey
