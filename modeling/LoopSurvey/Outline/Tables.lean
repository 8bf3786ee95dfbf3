import LoopSurvey.Outline.Id
/-!
# Side tables

What is known of the whole outline besides its nodes: which nodes share a source line, where a
callee may be defined, which nodes are the targets of the survey, and which was viewed last.
-/

namespace LoopSurvey

/-- The tables that come with an outline. A missing table is empty. -/
structure Tables where
  lines : List (String × List (Nat × List NodeId)) := []
  callees : List (String × List NodeId) := []
  targets : List NodeId := []
  lastViewed : Option NodeId := none

namespace Tables

/-- The nodes registered for a line of a source file. -/
def sameLine (t : Tables) (path : String) (line : Nat) : List NodeId :=
  ((t.lines.lookup path).bind (·.lookup line)).getD []

/-- The nodes a callee may be defined at, unless there is none. -/
def candidates? (t : Tables) (callee : String) : Option (List NodeId) :=
  (t.callees.lookup callee).filter fun ids => !ids.isEmpty

/-- Whether any callee is listed. -/
def hasCallees (t : Tables) : Bool := !t.callees.isEmpty

end Tables

end LoopSurvey
