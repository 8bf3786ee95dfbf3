import LoopSurvey.Session.Search
import LoopSurvey.Viewer.Basic
/-!
# Searching in the viewer

A keyword is searched for while it is typed, once the keys pause, and at once when it is accepted.
-/

namespace LoopSurvey.Viewer

/-- Shows what a search came to. Looking through the outline is journalled. -/
def applyOutcome (v : Viewer) : SearchOutcome → Viewer
  | .cleared _ => v.refresh
  | .advanced _ node => v.focus node
  | .scanned keyword scope presented =>
    let v := (v.post [] (.search keyword scope)).refresh
    match presented.first with
    | some first => v.focus first
    | none => v

/-- Searches for a keyword. -/
def runSearch (v : Viewer) (keyword : String) : Viewer :=
  let (session, outcome) := v.session.search keyword v.scope
  ({ v with session }).applyOutcome outcome

/-- Drops the keyword that waits. -/
def dropWaiting (v : Viewer) : Viewer := { v with waiting := v.waiting.cancel.1 }

/-- Changes the keyword that is typed; the search for it waits. -/
def retype (v : Viewer) (now : Nat) (query : String) : Viewer :=
  { v with query, waiting := v.waiting.schedule now query }

/-- Leaves the keyword. -/
def stopTyping (v : Viewer) : Viewer := { v with mode := v.restingMode }

/-- Accepts the keyword. If its results are there already, they stay as they are. -/
def acceptQuery (v : Viewer) : Viewer :=
  let v := v.dropWaiting
  let current := v.session.results
  if current.isEmpty || current.keyword ≠ Text.lower v.query then (v.runSearch v.query).stopTyping
  else v.stopTyping

/-- The text without its last character. -/
def withoutLast (s : String) : String := String.ofList s.toList.dropLast

/-- A key while a keyword is typed. -/
def pressSearch (v : Viewer) (now : Nat) : Key → Viewer
  | .escape => v.dropWaiting.stopTyping
  | .enter => v.acceptQuery
  | .backspace => v.retype now (withoutLast v.query)
  | .char c => v.retype now (v.query.push c)
  | _ => v

/-- Searches for the keyword that waits if it is due. -/
def fireDue (v : Viewer) (now : Nat) : Viewer :=
  match v.waiting.takeDue now with
  | (waiting, some keyword) => ({ v with waiting }).runSearch keyword
  | (_, none) => v

/-- Goes on to the next scope, and searches there if there is a keyword. -/
def cycleScope (v : Viewer) : Viewer :=
  let scope := v.scope.next
  let v := ({ v with scope }).say ("Data source: " ++ scope.name)
  match v.session.changeScope v.query scope with
  | (session, some outcome) => ({ v with session }).applyOutcome outcome
  | (_, none) => v

/-- Steps through the results. -/
def stepResult (v : Viewer) (forward : Bool) : Viewer :=
  match if forward then v.session.next else v.session.previous with
  | (session, some node) => ({ v with session }).focus node
  | (_, none) => v.say "No results"

/-- Drops the results and the keyword. -/
def clearSearch (v : Viewer) : Viewer :=
  if v.session.results.isEmpty && v.query = "" then v
  else
    ({ v.dropWaiting with session := v.session.clearResults.1, query := "", mode := .inactive }).refresh

end LoopSurvey.Viewer
