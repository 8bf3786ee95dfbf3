import LoopSurvey.Outline.Id
/-!
# Dialogs

At most one dialog is open, and it takes every key.
-/

namespace LoopSurvey

/-- A dialog. -/
inductive Dialog
  /-- Whether to go to a callee of a leaf or to open its source. -/
  | jumpOrOpen (node : NodeId) (callee : String) (candidates : List NodeId)
  /-- The comment of a node while it is written. -/
  | commentEditor (node : NodeId) (text : String)
  /-- The commented nodes, of which some are picked. -/
  | commentList (entries : List (NodeId × String)) (cursor : Nat) (picked : List Nat)
  /-- Whether to expand a node with many descendants. -/
  | expandConfirm (node : NodeId) (descendants : Nat)
  /-- A failure to be acknowledged. -/
  | alert (message : String)
deriving DecidableEq

namespace Dialog

/-- Picks an entry, or drops it if it is picked. -/
def togglePicked (picked : List Nat) (i : Nat) : List Nat :=
  if i ∈ picked then picked.filter (· ≠ i) else i :: picked

/-- The picked positions among so many entries, in order. -/
def pickedInOrder (picked : List Nat) (entries : Nat) : List Nat :=
  (List.range entries).filter (· ∈ picked)

/-- The nodes a list of comments leads to: those picked, in order, or else the one under the
cursor. -/
def chosen (entries : List (NodeId × String)) (cursor : Nat) (picked : List Nat) : List NodeId :=
  let positions := if picked.isEmpty then [cursor] else pickedInOrder picked entries.length
  positions.filterMap fun i => (entries[i]?).map (·.1)

end Dialog

end LoopSurvey
