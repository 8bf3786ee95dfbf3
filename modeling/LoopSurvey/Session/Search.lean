import LoopSurvey.Session.Basic
import LoopSurvey.Text.Case
/-!
# Searching

A search looks for a keyword, without regard to case, in the code of the nodes, in their comments,
or in both, and makes the nodes found the active result. Searching once more for the keyword of the
active result only steps through it.
-/

namespace LoopSurvey

/-- Where a keyword is looked for. -/
inductive SearchScope
  | all
  | code
  | comment
deriving DecidableEq, Repr

namespace SearchScope

/-- The name of a scope. -/
def name : SearchScope → String
  | all => "All"
  | code => "Code"
  | comment => "Comment"

/-- The scope after another one, which starts over after the last. -/
def next : SearchScope → SearchScope
  | all => code
  | code => comment
  | comment => all

/-- Whether code is looked through. -/
def hasCode : SearchScope → Bool
  | comment => false
  | _ => true

/-- Whether comments are looked through. -/
def hasComment : SearchScope → Bool
  | code => false
  | _ => true

end SearchScope

/-- Whether characters occur one after the other in a text. -/
def occursIn (needle : List Char) : List Char → Bool
  | [] => needle.isEmpty
  | c :: rest => needle.isPrefixOf (c :: rest) || occursIn needle rest

/-- Whether a keyword in lower case occurs in the lower-case form of a text, if there is one. -/
def matchesText (keyword : String) (text : Option String) : Bool :=
  text.any fun t => occursIn keyword.toList (Text.lower t).toList

/-- Whether a node is a hit of a keyword in lower case. -/
def Node.matches (n : Node) (keyword : String) (scope : SearchScope) : Bool :=
  (scope.hasCode && matchesText keyword n.payload.code) ||
    (scope.hasComment && matchesText keyword n.label.comment)

/-- What a search came to. -/
inductive SearchOutcome
  /-- There was no keyword: the active result was dropped. -/
  | cleared (deselected : List NodeId)
  /-- The keyword was that of the active result: the cursor moved. -/
  | advanced (cursor : Nat) (node : NodeId)
  /-- The outline was looked through. -/
  | scanned (keyword : String) (scope : SearchScope) (presented : Presented)

namespace Session

/-- The hits of a keyword in lower case, in pre-order. Every look through the outline is counted. -/
def scan (s : Session) (keyword : String) (scope : SearchScope) : Session × List NodeId :=
  ({ s with scans := s.scans + 1 },
    (s.outline.nodes.filter (·.matches keyword scope)).map Node.id)

/-- Looks through the outline and makes the hits the active result. -/
def searchAnew (s : Session) (keyword : String) (scope : SearchScope) : Session × SearchOutcome :=
  let (s, _) := s.clearResults
  let (s, hits) := s.scan keyword scope
  let (s, presented) := s.presentAll keyword hits
  (s, .scanned keyword scope presented)

/-- Searches for a keyword. -/
def search (s : Session) (keyword : String) (scope : SearchScope) : Session × SearchOutcome :=
  let keyword := Text.lower keyword
  if keyword = "" then
    let (s, deselected) := s.clearResults
    (s, .cleared deselected)
  else if keyword = s.results.keyword then
    match s.next with
    | (s', some node) => (s', .advanced s'.results.cursor node)
    | (_, none) => s.searchAnew keyword scope
  else s.searchAnew keyword scope

/-- Searches anew in another scope, unless there is no keyword. -/
def changeScope (s : Session) (keyword : String) (scope : SearchScope) :
    Session × Option SearchOutcome :=
  if keyword = "" then (s, none)
  else
    let (s, outcome) := s.clearResults.1.search keyword scope
    (s, some outcome)

end Session

end LoopSurvey
