import LoopSurvey.Outline.Basic
/-!
# Rows

The rows of the outline as it is shown: the nodes in pre-order, without those below closed ones.
-/

namespace LoopSurvey

/-- A row of the shown outline. -/
structure Row where
  id : NodeId
  depth : Nat
deriving DecidableEq

/-- The rows of a forest whose roots have a given depth. -/
def Forest.rowsAt (depth : Nat) : Forest Node → List Row
  | nil => []
  | cons n children rest =>
    ⟨n.id, depth⟩ ::
      ((if n.state.opened then children.rowsAt (depth + 1) else []) ++ rest.rowsAt depth)

/-- The rows of an outline. -/
def Outline.rows (o : Outline) : List Row := o.forest.rowsAt 0

/-- Whether the node with an identifier is there and has only opened ancestors. -/
def Outline.isVisible (o : Outline) (id : NodeId) : Bool :=
  (o.locate? id).any Place.isVisible

end LoopSurvey
