import LoopSurvey.Outline.Rows
import LoopSurvey.Viewer.Key
/-!
# The tree pane

The rows of the outline with a cursor on one of them, and the window of rows that is shown. The
window only moves when it is laid out, just enough to show the cursor.
-/

namespace LoopSurvey

/-- The rows, the cursor, and the window: its first row and its height. -/
structure TreePane where
  rows : List Row := []
  cursor : Option Nat := none
  offset : Nat := 0
  height : Nat := 0
deriving DecidableEq

namespace TreePane

/-- The node under the cursor. -/
def selected? (t : TreePane) : Option NodeId := (t.cursor.bind fun i => t.rows[i]?).map Row.id

/-- Puts the cursor on a row, or on the last one if there are fewer. Without rows there is no
cursor. -/
def selectRow (t : TreePane) (i : Nat) : TreePane :=
  if t.rows.isEmpty then { t with cursor := none, offset := 0 }
  else { t with cursor := some (min i (t.rows.length - 1)) }

/-- The row of a node. -/
def rowOf? (t : TreePane) (id : NodeId) : Option Nat := t.rows.findIdx? (·.id = id)

/-- The row of a node of the outline, or of its nearest ancestor that has one. -/
def nearestRow? (t : TreePane) (o : Outline) (id : NodeId) : Option Nat :=
  (t.rowOf? id).or ((o.locate? id).bind fun p => p.parents.findSome? t.rowOf?)

/-- Puts the cursor on a node of the outline, on its nearest ancestor that has a row, or else on the
first row. -/
def focus (t : TreePane) (o : Outline) (id : NodeId) : TreePane :=
  t.selectRow ((t.nearestRow? o id).getD 0)

/-- Takes the rows of an outline and keeps the cursor on its node. -/
def refresh (t : TreePane) (o : Outline) : TreePane :=
  let t' := { t with rows := o.rows }
  match t.selected? with
  | some id => t'.focus o id
  | none => t'.selectRow 0

/-- Moves the cursor down by some rows, or up if they are negative. -/
def moveBy (t : TreePane) (rows : Int) : TreePane :=
  t.selectRow ((t.cursor.getD 0 : Int) + rows).toNat

/-- Moves the cursor. -/
def move (t : TreePane) : Motion → TreePane
  | .down => t.moveBy 1
  | .up => t.moveBy (-1)
  | .pageDown => t.moveBy (page t.height)
  | .pageUp => t.moveBy (-(page t.height : Int))
  | .first => t.selectRow 0
  | .last => t.selectRow (t.rows.length - 1)

/-- Lays the window out with a height, and moves it if the cursor is outside. -/
def layOut (t : TreePane) (height : Nat) : TreePane :=
  let t := { t with height }
  if t.rows.isEmpty || height = 0 then t
  else
    let offset := min t.offset (t.rows.length - 1)
    match t.cursor with
    | none => { t with offset }
    | some i =>
      { t with offset :=
          if i < offset then i else if offset + height ≤ i then i - height + 1 else offset }

/-- The rows in the window. -/
def shown (t : TreePane) : List Row := (t.rows.drop t.offset).take t.height

end TreePane

end LoopSurvey
