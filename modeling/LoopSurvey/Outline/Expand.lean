import LoopSurvey.Outline.Basic
/-!
# Expanding and collapsing

Opening or closing whole subtrees, and opening what leads to the flagged nodes of a subtree. Each
operation also tells how many nodes it changed.
-/

namespace LoopSurvey

/-- Which loops are revealed. -/
inductive LoopFlag
  | target
  | relevant
deriving DecidableEq, Repr

/-- Whether a node carries a flag. -/
def LoopFlag.marks : LoopFlag → Node → Bool
  | target, n => n.payload.target
  | relevant, n => n.payload.relevant

/-- What expanding a whole subtree takes. -/
inductive ExpandPlan
  | nothing
  | run
  | confirm (descendants : Nat)
deriving DecidableEq, Repr

/-- Expanding more descendants than this is confirmed first. -/
def confirmAbove : Nat := 512

/-- The nodes to open so that every flagged node of the forest is shown and fully expanded: those on
the way to it, the node itself, and all below it. -/
def Forest.revealing (flag : Node → Bool) : Forest Node → List NodeId
  | nil => []
  | cons n children rest =>
    (if flag n then n.id :: children.preorder.map Node.id
      else if children.any flag then n.id :: children.revealing flag
      else []) ++ rest.revealing flag

namespace Outline

/-- Opens or closes the listed nodes, and counts those that were not so before. -/
def changeOpened (o : Outline) (ids : List NodeId) (opened : Bool) : Outline × Nat :=
  (o.setOpened ids opened, o.nodes.countP fun n => n.id ∈ ids && n.state.opened != opened)

/-- Opens or closes a node and all its descendants. -/
def changeSubtree (o : Outline) (id : NodeId) (opened : Bool) : Outline × Nat :=
  match o.locate? id with
  | none => (o, 0)
  | some p => o.changeOpened (p.id :: p.descendants) opened

/-- Opens a node and all its descendants. -/
def expandAll (o : Outline) (id : NodeId) : Outline × Nat := o.changeSubtree id true

/-- Closes a node and all its descendants. -/
def collapseAll (o : Outline) (id : NodeId) : Outline × Nat := o.changeSubtree id false

/-- Shows and fully expands every flagged descendant of a node. -/
def expandLoops (o : Outline) (id : NodeId) (flag : LoopFlag) : Outline × Nat :=
  match o.locate? id with
  | none => (o, 0)
  | some p =>
    if p.below.any flag.marks then
      o.changeOpened (p.parents ++ p.id :: p.below.revealing flag.marks) true
    else (o, 0)

/-- What expanding all below a node takes: nothing for leaves and unknown nodes. -/
def planExpandAll (o : Outline) (id : NodeId) : ExpandPlan :=
  match (o.locate? id).map (·.below.size) with
  | none | some 0 => .nothing
  | some n => if confirmAbove < n then .confirm n else .run

end Outline

end LoopSurvey
