import LoopSurvey.Proofs.Viewer.Cursor
import LoopSurvey.Proofs.Viewer.Scene
import LoopSurvey.Sample.Pair
/-!
# The tree pane follows the outline

The rows of the tree pane are those of the outline, and the cursor is on one of them unless there is none
(`TreePane.Follows`). Wherever the cursor is put, it ends up on a row, and every act of a handler that may change
the outline takes its rows anew, so every key and every tick keeps the tree pane that way (`Follows.turn`). A
node that has no row has an ancestor that has one (`Outline.exists_nearest_visible`), and the cursor goes to the
nearest one (`rows_cursor_focus`).
-/

namespace LoopSurvey

namespace Outline

variable {o : Outline}

/-! ## The nearest visible ancestor -/

theorem isVisible_of_parentsOf_eq_nil {id : NodeId} (h : id ∈ o.ids) (hnil : o.parentsOf id = []) :
    o.isVisible id = true := by
  refine isVisible_iff.2 ⟨h, fun n _ hparent => ?_⟩
  rw [hnil] at hparent
  cases hparent

/-- A node or one of its ancestors is visible. -/
theorem exists_visible {id : NodeId} (h : id ∈ o.ids) : ∃ a ∈ id :: o.parentsOf id, o.isVisible a = true := by
  -- along the ancestors, of which the last one is at the top and so is visible
  induction hparents : o.parentsOf id generalizing id with
  | nil => exact ⟨id, List.mem_cons_self, isVisible_of_parentsOf_eq_nil h hparents⟩
  | cons parent above ih =>
    rcases parentsOf_cases h with ⟨-, hnil⟩ | ⟨parent', hmem, -, he⟩
    · cases hnil.symm.trans hparents
    · obtain ⟨rfl, rfl⟩ := List.cons.inj (he.symm.trans hparents)
      obtain ⟨a, ha, hvisible⟩ := ih hmem rfl
      exact ⟨a, List.mem_cons_of_mem id ha, hvisible⟩

/-- On the way up from a node there is a first one that is visible. -/
theorem exists_nearest_visible {id : NodeId} (h : id ∈ o.ids) : ∃ nearer a further,
    id :: o.parentsOf id = nearer ++ a :: further ∧ (∀ b ∈ nearer, o.isVisible b = false) ∧
      o.isVisible a = true := by
  obtain ⟨a, hfirst⟩ : ∃ a, (id :: o.parentsOf id).find? o.isVisible = some a := by
    rw [← Option.isSome_iff_exists, List.find?_isSome]
    exact exists_visible h
  obtain ⟨hvisible, nearer, further, he, hnearer⟩ := List.find?_eq_some_iff_append.1 hfirst
  exact ⟨nearer, a, further, he, fun b hb => by simpa using hnearer b hb, hvisible⟩

end Outline

namespace TreePane

variable {t : TreePane} {o : Outline}

/-! ## Rows and cursor -/

/-- The rows are those of an outline, and the cursor is on one of them unless there is none. -/
structure Follows (t : TreePane) (o : Outline) : Prop where
  rows_eq : t.rows = o.rows
  cursor_eq_none_iff : t.cursor = none ↔ t.rows = []
  cursor_lt : ∀ i ∈ t.cursor, i < t.rows.length

/-- Wherever the cursor is put, it is on a row. -/
theorem follows_selectRow (h : t.rows = o.rows) (i : Nat) : (t.selectRow i).Follows o := by
  by_cases hnil : t.rows = []
  · have hselect : t.selectRow i = { t with cursor := none, offset := 0 } := by simp [selectRow, hnil]
    rw [hselect]
    refine ⟨h, ⟨fun _ => hnil, fun _ => rfl⟩, fun j hj => ?_⟩
    cases hj
  · have hselect : t.selectRow i = { t with cursor := some (min i (t.rows.length - 1)) } := by
      simp [selectRow, hnil]
    have hpos : 0 < t.rows.length := List.length_pos_iff.2 hnil
    rw [hselect]
    refine ⟨h, ⟨fun hnone => ?_, fun hrows => absurd hrows hnil⟩, fun j hj => ?_⟩
    · cases hnone
    · obtain rfl := Option.some.inj hj
      dsimp only
      omega

theorem follows_refresh (t : TreePane) (o : Outline) : (t.refresh o).Follows o := by
  unfold refresh
  dsimp only
  split <;> exact follows_selectRow rfl _

theorem Follows.focus (h : t.Follows o) (id : NodeId) : (t.focus o id).Follows o := follows_selectRow h.rows_eq _

theorem Follows.move (h : t.Follows o) (m : Motion) : (t.move m).Follows o := by
  cases m <;> exact follows_selectRow h.rows_eq _

/-! ## The nearest row -/

theorem rowOf?_eq_none {id : NodeId} (h : t.rows = o.rows) (hid : o.isVisible id = false) : t.rowOf? id = none := by
  rw [rowOf?, List.findIdx?_eq_none_iff]
  intro row hrow
  refine decide_eq_false fun he => ?_
  have hvisible : o.isVisible id = true := Outline.mem_rows_iff.1 ⟨row, h ▸ hrow, he⟩
  rw [hid] at hvisible
  cases hvisible

theorem nearestRow?_eq (t : TreePane) (o : Outline) (id : NodeId) :
    t.nearestRow? o id = (id :: o.parentsOf id).findSome? t.rowOf? := by
  rw [List.findSome?_cons, nearestRow?, Outline.parentsOf]
  cases t.rowOf? id with
  | some i => rfl
  | none => cases o.locate? id <;> rfl

/-- The cursor goes to the first node on the way up that is visible. -/
theorem Follows.selected?_focus (h : t.Follows o) {id a : NodeId} {nearer further : List NodeId}
    (he : id :: o.parentsOf id = nearer ++ a :: further) (hnearer : ∀ b ∈ nearer, o.isVisible b = false)
    (ha : o.isVisible a = true) : (t.focus o id).selected? = some a := by
  have hrow : ∃ row ∈ t.rows, row.id = a := by
    rw [h.rows_eq]
    exact Outline.mem_rows_iff.2 ha
  refine selected?_focus_of_nearestRow? o hrow ?_
  obtain ⟨i, hi⟩ := exists_rowOf? hrow
  have hnone : nearer.findSome? t.rowOf? = none :=
    List.findSome?_eq_none_iff.2 fun b hb => rowOf?_eq_none h.rows_eq (hnearer b hb)
  rw [nearestRow?_eq, he, List.findSome?_append, hnone, List.findSome?_cons, hi]
  rfl

end TreePane

/-! ## Every key and every tick -/

namespace Scene

variable {s s' : Scene}

/-- The tree pane follows the outline of the session. -/
def Follows (s : Scene) : Prop := s.tree.Follows s.session.outline

theorem Follows.act (h : s.Follows) (ha : s.Act s') : s'.Follows := by
  cases ha with
  | move m => exact TreePane.Follows.move h m
  | focus id => exact TreePane.Follows.focus h id
  | retype query => exact h
  | look results hn hk => exact h
  | operate op hop => exact TreePane.follows_refresh _ _
  | jump node candidates => exact TreePane.follows_refresh _ _

theorem Follows.acts (h : s.Follows) (ha : s.Acts s') : s'.Follows := by
  induction ha with
  | refl => exact h
  | tail _ hact ih => exact ih.act hact

theorem Follows.turn {commented : Prop} (h : s.Follows) (ht : Turn commented s s') : s'.Follows := by
  cases ht with
  | acts ha => exact h.acts ha
  | idles => exact h
  | cycles _ ha =>
    have hsearched : Follows (({ s with scope := s.scope.next } : Scene).operated
        (.changeScope s.query s.scope.next)) := TreePane.follows_refresh _ _
    exact hsearched.acts ha
  | comments _ e => exact TreePane.follows_refresh _ _

end Scene

namespace Viewer

variable {v : Viewer}

theorem follows_run (h : v.scene.Follows) (events : List ViewerEvent) : (v.run events).scene.Follows :=
  run_keeps (P := fun v => v.scene.Follows) (fun v event _ hv => hv.turn (v.turn_step event)) h

theorem follows_start (context : ViewerContext) (s : Session) : (start context s).scene.Follows := by
  have hrefreshed : ({ context, session := s.makeReady.1 } : Viewer).refresh.scene.Follows :=
    TreePane.follows_refresh {} s.makeReady.1.outline
  unfold start
  dsimp only
  split
  · next id _ => exact hrefreshed.act (.focus id)
  · exact hrefreshed

/-- **The tree pane follows the outline**, whatever happens: its rows are those of the outline, and the cursor is on
one of them unless there is none. So the cursor that is put on a node is on that node if it is visible, and
otherwise on its nearest ancestor that is, which there always is. -/
theorem rows_cursor_focus (context : ViewerContext) (s : Session) (events : List ViewerEvent) :
    let v := (start context s).run events
    let o := v.session.outline
    v.tree.rows = o.rows ∧
    (v.tree.cursor = none ↔ v.tree.rows = []) ∧ (∀ i ∈ v.tree.cursor, i < v.tree.rows.length) ∧
    ∀ id ∈ o.ids,
      (o.isVisible id = true → (v.focus id).tree.selected? = some id) ∧
      (o.isVisible id = false → ∃ nearer a further, o.parentsOf id = nearer ++ a :: further ∧
        (∀ b ∈ nearer, o.isVisible b = false) ∧ o.isVisible a = true ∧
        (v.focus id).tree.selected? = some a) := by
  intro v o
  have h : v.tree.Follows o := follows_run (follows_start context s) events
  refine ⟨h.rows_eq, h.cursor_eq_none_iff, h.cursor_lt, fun id hid => ⟨fun hvisible => ?_, fun hhidden => ?_⟩⟩
  · exact h.selected?_focus (List.nil_append _).symm (fun _ hb => nomatch hb) hvisible
  · obtain ⟨nearer, a, further, he, hnearer, ha⟩ := Outline.exists_nearest_visible hid
    have hselected := h.selected?_focus he hnearer ha
    cases nearer with
    | nil =>
      obtain ⟨rfl, -⟩ := List.cons.inj he
      exact absurd (hhidden.symm.trans ha) Bool.false_ne_true
    | cons b nearer =>
      obtain ⟨rfl, hparents⟩ := List.cons.inj he
      exact ⟨nearer, a, further, hparents, fun c hc => hnearer c (List.mem_cons_of_mem _ hc), ha, hselected⟩

/-- Once the routine is closed, the cursor that is put on its first loop is on the routine. -/
theorem rows_cursor_focus_pair :
    let v := (start {} Sample.pairSession).run [.key 0 .enter]
    v.session.outline.isVisible Sample.firstId = false ∧
    (v.focus Sample.firstId).tree.selected? = some Sample.routineId := by
  intro v
  have hmem : Sample.firstId ∈ v.session.outline.ids := by decide
  have hhidden : v.session.outline.isVisible Sample.firstId = false := by decide
  have hparents : v.session.outline.parentsOf Sample.firstId = [Sample.routineId] := by decide
  obtain ⟨nearer, a, further, he, hnearer, ha, hselected⟩ :=
    ((rows_cursor_focus {} Sample.pairSession [.key 0 .enter]).2.2.2 Sample.firstId hmem).2 hhidden
  refine ⟨hhidden, hselected.trans (congrArg some ?_)⟩
  have hmem' : a ∈ [Sample.routineId] := by
    rw [← hparents, he]
    simp
  exact List.mem_singleton.1 hmem'

end Viewer

end LoopSurvey
