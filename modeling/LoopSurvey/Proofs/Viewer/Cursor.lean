import LoopSurvey.Proofs.Outline.Visibility
import LoopSurvey.Viewer.TreePane
/-!
# The cursor of the tree pane

Bringing the rows up to date makes them those of the outline (`TreePane.rows_refresh`), moving the cursor
leaves them alone, and putting it on a node that has a row selects that node (`TreePane.selected?_focus`).
-/

namespace LoopSurvey.TreePane

variable (t : TreePane) (o : Outline)

@[simp] theorem rows_selectRow (i : Nat) : (t.selectRow i).rows = t.rows := by
  unfold selectRow
  split <;> rfl

@[simp] theorem rows_focus (id : NodeId) : (t.focus o id).rows = t.rows := t.rows_selectRow _

@[simp] theorem rows_refresh : (t.refresh o).rows = o.rows := by
  unfold refresh
  dsimp only
  split
  · exact rows_focus _ o _
  · exact rows_selectRow _ 0

variable {t}

theorem selected?_selectRow {i : Nat} (h : i < t.rows.length) :
    (t.selectRow i).selected? = some t.rows[i].id := by
  have hne : t.rows.isEmpty = false := by
    rw [List.isEmpty_eq_false_iff]
    exact List.ne_nil_of_length_pos (Nat.zero_lt_of_lt h)
  have hmin : min i (t.rows.length - 1) = i := by omega
  simp [selectRow, selected?, hne, hmin, h]

theorem exists_rowOf? {id : NodeId} (h : ∃ row ∈ t.rows, row.id = id) : ∃ i, t.rowOf? id = some i := by
  rw [← Option.isSome_iff_exists, rowOf?, List.findIdx?_isSome]
  simpa using h

/-- The cursor is put on the node whose row is the nearest. -/
theorem selected?_focus_of_nearestRow? {id a : NodeId} (h : ∃ row ∈ t.rows, row.id = a)
    (hnearest : t.nearestRow? o id = t.rowOf? a) : (t.focus o id).selected? = some a := by
  obtain ⟨i, hi⟩ := exists_rowOf? h
  obtain ⟨hlt, hid, -⟩ := List.findIdx?_eq_some_iff_getElem.1 hi
  rw [focus, hnearest, hi, Option.getD_some, selected?_selectRow hlt]
  exact congrArg some (of_decide_eq_true hid)

/-- The cursor is on a node that it was put on, if the node has a row. -/
theorem selected?_focus {id : NodeId} (h : ∃ row ∈ t.rows, row.id = id) :
    (t.focus o id).selected? = some id := by
  refine selected?_focus_of_nearestRow? o h ?_
  obtain ⟨i, hi⟩ := exists_rowOf? h
  rw [nearestRow?, hi]
  rfl

end LoopSurvey.TreePane
