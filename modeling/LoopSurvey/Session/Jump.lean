import LoopSurvey.Session.Basic
/-!
# Jumps

Jumps make nodes that belong together the active result: the candidates of a callee, the targets,
or commented nodes. Jumps to callees are remembered in the history.
-/

namespace LoopSurvey

/-- What activating a node offers. -/
inductive CalleeChoice
  /-- A leaf with a callee that may be defined at the candidates. -/
  | ask (callee : String) (candidates : List NodeId)
  /-- Any other node only has its source. -/
  | openSource
deriving DecidableEq

namespace Session

/-- What activating a node offers. Activating a leaf drops the active result. -/
def calleeChoice (s : Session) (id : NodeId) : Session × CalleeChoice :=
  match s.outline.locate? id with
  | none => (s, .openSource)
  | some p =>
    if !p.isLeaf then (s, .openSource)
    else
      (s.clearResults.1,
        match p.node.payload.callee with
        | none => .openSource
        | some callee =>
          match s.tables.candidates? callee with
          | some candidates => .ask callee candidates
          | none => .openSource)

/-- Remembers a node of the outline as visited. -/
def visit (s : Session) (id : NodeId) : Session :=
  if s.outline.contains id then { s with history := s.history.push id } else s

/-- Goes from a node to the candidates of its callee. -/
def jumpToCandidates (s : Session) (id : NodeId) (candidates : List NodeId) :
    Session × Presented :=
  (s.visit id).presentAll "" candidates

/-- Goes from a leaf to the candidates of its callee, if it has any. -/
def jumpToCallee (s : Session) (id : NodeId) : Session × Option Presented :=
  match s.calleeChoice id with
  | (s, .ask _ candidates) =>
    let (s, presented) := s.jumpToCandidates id candidates
    (s, some presented)
  | (s, .openSource) => (s, none)

/-- Sorts the targets that are in the outline by line key. -/
def orderTargets (s : Session) : Session :=
  { s with targetOrder := s.outline.sortByLine (s.tables.targets.filter s.outline.contains) }

/-- Goes to the targets, if there are any. -/
def jumpToTargets (s : Session) : Session × Option Presented :=
  if s.targetOrder.isEmpty then (s, none)
  else
    let (s, presented) := s.clearResults.1.presentAll "" s.targetOrder
    (s, some presented)

/-- Goes to the given nodes, if there are any. -/
def jumpTo (s : Session) (ids : List NodeId) : Session × Option Presented :=
  if ids.isEmpty then (s, none)
  else
    let (s, presented) := s.clearResults.1.presentAll "" ids
    (s, some presented)

/-- The node to go back to. -/
def backTo? (s : Session) : Option NodeId := s.history.latest?

/-- Makes a loaded session ready: orders the targets and takes up the node viewed last, which is
returned. -/
def makeReady (s : Session) : Session × Option NodeId :=
  let s := s.orderTargets
  match s.tables.lastViewed with
  | none => (s, none)
  | some id => ({ s with history := s.history.push id }, some id)

end Session

end LoopSurvey
