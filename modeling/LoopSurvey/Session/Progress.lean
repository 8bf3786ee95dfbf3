import LoopSurvey.Session.Basic
/-!
# Progress and comments

How many targets have been judged, and which nodes carry a comment.
-/

namespace LoopSurvey

/-- Judged targets out of all targets. -/
structure Progress where
  judged : Nat
  total : Nat
deriving DecidableEq, Repr

namespace Progress

/-- The share of judged targets, in percent rounded up. -/
def percent? (p : Progress) : Option Nat :=
  if p.total = 0 then none else some ((p.judged * 100 + (p.total - 1)) / p.total)

/-- Whether there are targets and all are judged. -/
def isComplete (p : Progress) : Bool := 0 < p.total && p.judged = p.total

end Progress

namespace Session

/-- The progress of the survey. Every entry of the target list counts, in the outline or not. -/
def progress (s : Session) : Progress where
  judged := (s.tables.targets.filterMap s.outline.node?).countP (·.label.isJudged)
  total := s.tables.targets.length

/-- The commented nodes, last one in pre-order first. -/
def comments (s : Session) : List (NodeId × String) :=
  (s.outline.nodes.filterMap fun n => n.label.comment.map (n.id, ·)).reverse

end Session

end LoopSurvey
