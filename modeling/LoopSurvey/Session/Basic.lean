import LoopSurvey.Outline.LineKey
import LoopSurvey.Outline.Tables
import LoopSurvey.Session.Results
/-!
# Sessions

A survey session: the outline with its side tables, the active result, the visited nodes, the order
of the targets, and the number of searches made.
-/

namespace LoopSurvey

/-- The state that navigation and editing work on. -/
structure Session where
  outline : Outline := .empty
  tables : Tables := {}
  results : Results := {}
  history : History := .empty
  targetOrder : List NodeId := []
  scans : Nat := 0

/-- What presenting a result has done. -/
structure Presented where
  /-- The number of nodes presented. -/
  count : Nat := 0
  /-- The ancestors that had to be opened, in the order they were come upon. -/
  opened : List NodeId := []
  /-- The first node in the order of line keys. -/
  first : Option NodeId := none
deriving DecidableEq

namespace Session

/-- The session with another outline. -/
def withOutline (s : Session) (o : Outline) : Session := { s with outline := o }

/-- Deselects the nodes of the active result and forgets it; returns their identifiers. -/
def clearResults (s : Session) : Session × List NodeId :=
  ({ s with outline := s.outline.setSelected s.results.nodes false, results := {} },
    s.results.nodes)

/-- The ancestors of the listed nodes, nearest first, one node after the other. -/
def ancestorsOf (s : Session) (ids : List NodeId) : List NodeId :=
  (ids.filterMap s.outline.locate?).flatMap Place.parents

/-- The listed nodes that are there and closed, each once. -/
def closedAmong (s : Session) (ids : List NodeId) : List NodeId :=
  ids.eraseDups.filter fun id => (s.outline.node? id).any fun n => !n.state.opened

/-- Makes the hits that are in the outline the active result: opens the given ancestors, selects the
hits and sorts them by line key. Without such hits nothing changes. -/
def present (s : Session) (keyword : String) (ancestors hits : List NodeId) :
    Session × Presented :=
  match hits.filter s.outline.contains with
  | [] => (s, {})
  | hits =>
    let sorted := s.outline.sortByLine hits
    let opened := s.closedAmong ancestors
    ({ s with
        outline := (s.outline.setOpened opened true).setSelected hits true
        results := { keyword, nodes := sorted } },
      { count := sorted.length, opened, first := sorted.head? })

/-- Makes the hits the active result and shows them. -/
def presentAll (s : Session) (keyword : String) (hits : List NodeId) : Session × Presented :=
  s.present keyword (s.ancestorsOf hits) hits

/-- Steps to the next node of the active result; returns it. -/
def next (s : Session) : Session × Option NodeId :=
  let s := { s with results := s.results.advance }
  (s, s.results.current?)

/-- Steps to the previous node of the active result; returns it. -/
def previous (s : Session) : Session × Option NodeId :=
  let s := { s with results := s.results.retreat }
  (s, s.results.current?)

end Session

end LoopSurvey
