import LoopSurvey.Outline.Basic
/-!
# Line keys

The key of a node is its own start line, after the start lines of those ancestors at which the
signature (source file and program unit) changes on the way up. Sorting by key orders nodes by
enclosing scope first and by line second.
-/

namespace LoopSurvey

/-- The lines that place a node in its nested scopes, outermost first. -/
abbrev LineKey := List Nat

/-- The source file and the program unit of a node. -/
def Node.signature (n : Node) : Option String × Option String :=
  (n.payload.path, n.payload.unit)

/-- The start line of a node, 0 if it has none. -/
def Node.line (n : Node) : Nat := n.payload.startLine.getD 0

namespace LineKey

/-- One step up: an ancestor with another signature than the node below it adds its line. -/
def extend (signature : Option String × Option String) (key : LineKey) : List Node → LineKey
  | [] => key
  | ancestor :: above =>
    if ancestor.signature = signature then extend signature key above
    else extend ancestor.signature (ancestor.line :: key) above

/-- Lexicographic order; a key comes before the longer ones it begins. -/
def compare : LineKey → LineKey → Ordering
  | [], [] => .eq
  | [], _ :: _ => .lt
  | _ :: _, [] => .gt
  | a :: as, b :: bs => (Ord.compare a b).then (compare as bs)

/-- The order of possibly missing keys: those that are missing come last. -/
def le : Option LineKey → Option LineKey → Bool
  | some a, some b => compare a b != .gt
  | some _, none => true
  | none, some _ => false
  | none, none => true

end LineKey

/-- The line key of a node at its place. -/
def Place.lineKey (p : Place Node) : LineKey :=
  LineKey.extend p.node.signature [p.node.line] p.above

namespace Outline

/-- The line key of the node with an identifier. -/
def lineKey? (o : Outline) (id : NodeId) : Option LineKey := (o.locate? id).map Place.lineKey

/-- Sorts identifiers by line key. Equal keys keep their order, and unknown identifiers go last. -/
def sortByLine (o : Outline) (ids : List NodeId) : List NodeId :=
  ((ids.map fun id => (o.lineKey? id, id)).mergeSort fun a b => LineKey.le a.1 b.1).map (·.2)

end Outline

end LoopSurvey
