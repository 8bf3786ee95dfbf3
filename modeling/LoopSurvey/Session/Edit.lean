import LoopSurvey.Outline.Rows
import LoopSurvey.Session.Basic
/-!
# Edits

The changes a surveyor makes to nodes. A judgment spreads: from a checked node to all checked
relevant ones, and from each of these to the nodes that share its source line. An edit tells which
nodes it affected and which of these can be seen.
-/

namespace LoopSurvey

/-- A change to a node. -/
inductive Change
  | judge (judgment : Judgment)
  | setLevel (level : Nat)
  | comment (text : String)
  | check (checked : Bool)
  | setOpened (opened : Bool)
deriving DecidableEq

/-- A change and the node it is made to. -/
structure Edit where
  node : NodeId
  change : Change
deriving DecidableEq

/-- The nodes an edit affected, and those of them whose ancestors are all opened. -/
structure Touched where
  affected : List NodeId
  visible : List NodeId
deriving DecidableEq

/-- Why an edit was refused. -/
inductive EditError
  | notFound (node : NodeId)
  | noEstimation (node : NodeId)
  | levelOutOfRange (node : NodeId) (level levels : Nat)
deriving DecidableEq

/-- The wording of an edit error. -/
def EditError.message : EditError → String
  | .notFound id => s!"node not found (id={id.text})"
  | .noEstimation id => s!"node {id.text} has no estimation scheme"
  | .levelOutOfRange id level levels =>
    s!"estimation level {level} out of range for node {id.text} ({levels} levels)"

namespace Session

/-- The nodes of the outline registered for the source line a node starts at. -/
def sharingLine (s : Session) (n : Node) : List NodeId :=
  match n.payload.path, n.payload.startLine with
  | some path, some line => (s.tables.sameLine path line).filter s.outline.contains
  | _, _ => []

/-- The nodes judged together with a node: all checked relevant ones and itself, last, if it is
checked, and itself alone if not. -/
def judgedTogether (s : Session) (n : Node) : List Node :=
  (if n.state.checked then
    s.outline.nodes.filter fun m => m.state.checked && m.payload.relevant && m.id ≠ n.id
  else []) ++ [n]

/-- The nodes that a judgment of a node affects, each once: those judged together with it, each
followed by those that share its line. -/
def judgmentReach (s : Session) (n : Node) : List NodeId :=
  ((s.judgedTogether n).flatMap fun m => m.id :: s.sharingLine m).eraseDups

/-- Makes a change to a node. The result is the nodes affected, or why the change was refused. -/
def applyChange (s : Session) (n : Node) : Change → Session × Except EditError (List NodeId)
  | .judge j =>
    let ids := s.judgmentReach n
    (s.withOutline (s.outline.updateLabel ids (·.judge j)), .ok ids)
  | .setLevel level =>
    match n.label.estimation with
    | none => (s, .error (.noEstimation n.id))
    | some e =>
      if h : e.contains level = true then
        (s.withOutline (s.outline.updateLabel [n.id] (·.setEstimation (e.choose level h))), .ok [n.id])
      else (s, .error (.levelOutOfRange n.id level e.levels))
  | .comment text => (s.withOutline (s.outline.updateLabel [n.id] (·.setComment text)), .ok [n.id])
  | .check checked => (s.withOutline (s.outline.setChecked [n.id] checked), .ok [n.id])
  | .setOpened opened => (s.withOutline (s.outline.setOpened [n.id] opened), .ok [n.id])

/-- Makes an edit. Which of the affected nodes can be seen is looked up after the change. -/
def edit (s : Session) (e : Edit) : Session × Except EditError Touched :=
  match s.outline.node? e.node with
  | none => (s, .error (.notFound e.node))
  | some n =>
    match s.applyChange n e.change with
    | (s, .error reason) => (s, .error reason)
    | (s, .ok affected) => (s, .ok ⟨affected, affected.filter s.outline.isVisible⟩)

end Session

end LoopSurvey
