import LoopSurvey.Session.Basic
/-!
# The outline of two loops

A routine with two loops that start on one line and call it: the smallest outline in which searches,
jumps and judgments have something to do.
-/

namespace LoopSurvey.Sample

/-- The routine. -/
def routineId : NodeId := ⟨"s", by decide, by decide⟩

/-- The first loop. -/
def firstId : NodeId := ⟨"a", by decide, by decide⟩

/-- The second loop. -/
def secondId : NodeId := ⟨"b", by decide, by decide⟩

/-- A loop that calls the routine. It is a target of the survey, not yet judged. -/
def loopNode (id : NodeId) (code : String) (checked : Bool) : Node where
  id
  kind := .loop
  payload := {
    path := some "f", startLine := some 3, relevant := true, target := true, callee := some "sub"
    code := some code }
  state := { checked }
  label := {
    text := code, judgment := some .notYet, estimation := some ⟨0, 3, by decide⟩, mark := .target }

/-- The routine and the loops in it. -/
def pairOutline : Outline where
  forest :=
    .cons { id := routineId, kind := .subroutine, state := { opened := true } }
      (.cons (loopNode firstId "DO i" true) .nil
        (.cons (loopNode secondId "do j" false) .nil .nil)) .nil
  nodup := by decide

/-- The loops are the targets, share their line, and call the routine. -/
def pairTables : Tables where
  lines := [("f", [(3, [firstId, secondId])])]
  callees := [("sub", [routineId])]
  targets := [secondId, firstId]

/-- The session of the two loops. -/
def pairSession : Session := { outline := pairOutline, tables := pairTables }

/-- The routine with both loops checked. Their line is registered for them, for one of them twice, and for an
identifier that no node has. -/
def checkedPair : Session where
  outline := {
    forest :=
      .cons { id := routineId, kind := .subroutine, state := { opened := true } }
        (.cons (loopNode firstId "DO i" true) .nil (.cons (loopNode secondId "do j" true) .nil .nil)) .nil
    nodup := by decide }
  tables := { lines := [("f", [(3, [secondId, firstId, ⟨"away", by decide, by decide⟩, secondId])])] }

end LoopSurvey.Sample
