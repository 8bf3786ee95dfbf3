import LoopSurvey.Outline.Id
/-!
# Results and history

The one active result of a session, a list of nodes with a cursor that goes round it, and the
history of visited nodes, which keeps the latest few.
-/

namespace LoopSurvey

/-- The nodes found last, in order, with the one looked at. Results that no search has found have an
empty keyword. -/
structure Results where
  keyword : String := ""
  nodes : List NodeId := []
  cursor : Nat := 0
deriving DecidableEq

namespace Results

/-- Whether there is nothing to step through. -/
def isEmpty (r : Results) : Bool := r.nodes.isEmpty

/-- The node under the cursor. -/
def current? (r : Results) : Option NodeId := r.nodes[r.cursor]?

/-- Moves the cursor to the next node, from the last one to the first. -/
def advance (r : Results) : Results :=
  if r.isEmpty then r else { r with cursor := (r.cursor + 1) % r.nodes.length }

/-- Moves the cursor to the node before, from the first one to the last. -/
def retreat (r : Results) : Results :=
  if r.isEmpty then r
  else { r with cursor := if r.cursor = 0 then r.nodes.length - 1 else r.cursor - 1 }

end Results

/-- The number of visited nodes that are kept. -/
def historySize : Nat := 3

/-- The nodes visited last, latest first. -/
structure History where
  entries : List NodeId
  length_le : entries.length ≤ historySize
deriving DecidableEq

namespace History

/-- No visits. -/
def empty : History := ⟨[], Nat.zero_le _⟩

/-- Adds a visit and forgets those beyond the size. -/
def push (h : History) (id : NodeId) : History where
  entries := (id :: h.entries).take historySize
  length_le := List.length_take_le ..

/-- The latest visit. -/
def latest? (h : History) : Option NodeId := h.entries.head?

end History

end LoopSurvey
