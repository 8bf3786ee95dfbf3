import LoopSurvey.Outline.Forest
import LoopSurvey.Outline.Node
/-!
# Outlines

An outline is a forest of nodes with pairwise distinct identifiers. It grows node by node
(`Outline.insert`); every other change touches the state or the label of single nodes and leaves
identifiers, payloads and shape alone.
-/

namespace LoopSurvey

/-- A forest of nodes, each with an identifier of its own. -/
structure Outline where
  forest : Forest Node
  nodup : (forest.preorder.map Node.id).Nodup

namespace Place

/-- The identifier of the node at a place. -/
def id (p : Place Node) : NodeId := p.node.id

/-- The identifiers of the ancestors, nearest first. -/
def parents (p : Place Node) : List NodeId := p.above.map Node.id

/-- The identifiers of the children. -/
def children (p : Place Node) : List NodeId := p.below.roots.map Node.id

/-- The identifiers of all descendants in pre-order. -/
def descendants (p : Place Node) : List NodeId := p.below.preorder.map Node.id

/-- The number of ancestors. -/
def depth (p : Place α) : Nat := p.above.length

/-- Whether the node has no children. -/
def isLeaf (p : Place α) : Bool := p.below.roots.isEmpty

/-- Whether all ancestors are opened. -/
def isVisible (p : Place Node) : Bool := p.above.all (·.state.opened)

end Place

/-- Why a node was not inserted. -/
inductive InsertError
  | duplicateId (id : NodeId)
  | unknownParent (id parent : NodeId)
deriving DecidableEq

/-- The wording of an insertion error. -/
def InsertError.message : InsertError → String
  | .duplicateId id => s!"duplicate node id {id.text}"
  | .unknownParent id parent => s!"parent {parent.text} of node {id.text} is not in the tree"

namespace Outline

/-- The outline without nodes. -/
def empty : Outline := ⟨.nil, List.nodup_nil⟩

/-- The nodes in pre-order. -/
def nodes (o : Outline) : List Node := o.forest.preorder

/-- The identifiers in pre-order. -/
def ids (o : Outline) : List NodeId := o.nodes.map Node.id

/-- The identifiers of the top-level nodes. -/
def top (o : Outline) : List NodeId := o.forest.roots.map Node.id

/-- The places of the nodes in pre-order. -/
def places (o : Outline) : List (Place Node) := o.forest.places

/-- The number of nodes. -/
def size (o : Outline) : Nat := o.forest.size

/-- The place of the node with an identifier. -/
def locate? (o : Outline) (id : NodeId) : Option (Place Node) := o.forest.find? (·.id = id)

/-- The node with an identifier. -/
def node? (o : Outline) (id : NodeId) : Option Node := (o.locate? id).map Place.node

/-- Whether a node has the identifier. -/
def contains (o : Outline) (id : NodeId) : Bool := o.forest.any (·.id = id)

/-- Changes the states of nodes. -/
def mapState (o : Outline) (f : Node → NodeState) : Outline where
  forest := o.forest.map fun n => { n with state := f n }
  nodup := by
    have h := o.nodup
    simpa [List.map_map, Function.comp_def] using h

/-- Changes the labels of nodes. -/
def mapLabel (o : Outline) (f : Node → Label) : Outline where
  forest := o.forest.map fun n => { n with label := f n }
  nodup := by
    have h := o.nodup
    simpa [List.map_map, Function.comp_def] using h

/-- Changes the state of the nodes whose identifiers are listed. -/
def updateState (o : Outline) (ids : List NodeId) (f : NodeState → NodeState) : Outline :=
  o.mapState fun n => if n.id ∈ ids then f n.state else n.state

/-- Changes the label of the nodes whose identifiers are listed. -/
def updateLabel (o : Outline) (ids : List NodeId) (f : Label → Label) : Outline :=
  o.mapLabel fun n => if n.id ∈ ids then f n.label else n.label

/-- Opens or closes the listed nodes. -/
def setOpened (o : Outline) (ids : List NodeId) (opened : Bool) : Outline :=
  o.updateState ids fun s => { s with opened }

/-- Selects or deselects the listed nodes. -/
def setSelected (o : Outline) (ids : List NodeId) (selected : Bool) : Outline :=
  o.updateState ids fun s => { s with selected }

/-- Checks or unchecks the listed nodes. -/
def setChecked (o : Outline) (ids : List NodeId) (checked : Bool) : Outline :=
  o.updateState ids fun s => { s with checked }

theorem contains_iff {o : Outline} {id : NodeId} : o.contains id = true ↔ id ∈ o.ids := by
  unfold contains ids nodes
  generalize o.forest = t
  induction t with
  | nil => simp [Forest.any, Forest.preorder]
  | cons a children rest ihc ihr =>
    simp only [Forest.any, Forest.preorder, Bool.or_eq_true, decide_eq_true_eq, ihc, ihr]
    simp [or_assoc, eq_comm]

/-- Inserting a node with a new identifier keeps the identifiers distinct. -/
theorem nodup_of_perm_cons {o : Outline} {n : Node} {t : Forest Node}
    (h : t.preorder.Perm (n :: o.forest.preorder)) (hn : n.id ∉ o.ids) :
    (t.preorder.map Node.id).Nodup :=
  (h.map Node.id).nodup_iff.2 (List.nodup_cons.2 ⟨hn, o.nodup⟩)

/-- Adds a node as the last child of its parent, or at the end of the top level, and tells whether it
was taken. A second node with the same identifier is refused before a parent that is not there. -/
def insert (o : Outline) (parent : Option NodeId) (n : Node) : Outline × Except InsertError Unit :=
  if hn : o.contains n.id = true then (o, .error (.duplicateId n.id))
  else
    have fresh : n.id ∉ o.ids := fun h => hn (contains_iff.2 h)
    match parent with
    | none =>
      (⟨o.forest.push n, nodup_of_perm_cons
        (by rw [Forest.preorder_push]; exact List.perm_append_singleton _ _) fresh⟩, .ok ())
    | some p =>
      match h : o.forest.pushBelow? (·.id = p) n with
      | some t => (⟨t, nodup_of_perm_cons (Forest.perm_pushBelow? h) fresh⟩, .ok ())
      | none => (o, .error (.unknownParent n.id p))

end Outline

end LoopSurvey
