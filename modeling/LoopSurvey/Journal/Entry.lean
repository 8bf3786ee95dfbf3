import LoopSurvey.Json.Value
import LoopSurvey.Session.Edit
import LoopSurvey.Session.Search
/-!
# Journal entries

Every action of a surveyor is journalled: who acted in which project, on which nodes, and what was
done. An entry is sent as a form, a list of named texts.
-/

namespace LoopSurvey.Journal

/-- Who surveys what. -/
structure Identity where
  user : String := ""
  project : String := ""
  version : String := ""
deriving DecidableEq, Repr

/-- What an entry says of a node. -/
structure NodeData where
  id : String
  index : Option Nat
  leftmost : Option Nat
  path : Option String
  line : Nat
  relevant : Bool
  target : Bool
deriving DecidableEq, Repr

/-- What was done. -/
inductive Action
  | opened (value : Bool)
  | checked (value : Bool)
  | judgment (name : String)
  | estimation (level : Nat)
  | comment (text : String)
  | expandAll
  | collapseAll
  | expandTargetLoops
  | expandRelevantLoops
  | openSource
  | search (keyword : String) (scope : SearchScope)
deriving DecidableEq, Repr

/-- An entry of the journal. -/
structure Entry where
  identity : Identity
  nodes : List NodeData
  action : Action
deriving DecidableEq, Repr

/-- What an entry says of a node of the outline. -/
def NodeData.ofNode (n : Node) : NodeData where
  id := n.id.text
  index := n.payload.index
  leftmost := n.payload.leftmost
  path := n.payload.path
  line := n.line
  relevant := n.payload.relevant
  target := n.payload.target

/-- A named text for a value, if there is one. -/
def fieldFor (name : String) (value : Option String) : List (String × String) :=
  (value.map (name, ·)).toList

/-- The JSON text of a flag that is left out unless it is set. -/
def flagText (flag : Bool) : Option String := if flag then some "true" else none

/-- The JSON text of the data of a node. What is absent is left out. -/
def NodeData.json (d : NodeData) : String :=
  Json.objectText <|
    ("nid", Json.quote d.id) ::
      (fieldFor "idx" (d.index.map Nat.repr) ++ fieldFor "lmi" (d.leftmost.map Nat.repr)
        ++ fieldFor "path" (d.path.map Json.quote) ++ [("lnum", Nat.repr d.line)]
        ++ fieldFor "relevant" (flagText d.relevant) ++ fieldFor "target" (flagText d.target))

/-- The name of a truth value. -/
def boolText (b : Bool) : String := if b then "true" else "false"

/-- The form fields of an action. -/
def Action.fields : Action → List (String × String)
  | opened b => [("opened", boolText b)]
  | checked b => [("checked", boolText b)]
  | judgment name => [("judgment", name)]
  | estimation level => [("estimation_scheme", Nat.repr level)]
  | comment text => [("comment", text), ("has_comment", boolText (text ≠ ""))]
  | expandAll => [("expand_all", "true")]
  | collapseAll => [("collapse_all", "true")]
  | expandTargetLoops => [("expand_target_loops", "true")]
  | expandRelevantLoops => [("expand_relevant_loops", "true")]
  | openSource => [("open_source", "true")]
  | search keyword scope => [("search", keyword), ("datasrc", scope.name)]

/-- The form of an entry: the identity, the nodes as a JSON array unless there are none, and the
fields of the action. -/
def Entry.form (e : Entry) : List (String × String) :=
  [("user", e.identity.user), ("proj", e.identity.project), ("ver", e.identity.version)]
    ++ (if e.nodes.isEmpty then []
      else [("node_data", Json.arrayText (e.nodes.map NodeData.json))])
    ++ e.action.fields

/-- The entry for an action on nodes of an outline; identifiers of no node are passed over. -/
def Entry.on (identity : Identity) (o : Outline) (ids : List NodeId) (action : Action) : Entry where
  identity
  nodes := (ids.filterMap o.node?).map NodeData.ofNode
  action

end LoopSurvey.Journal

/-- The journalled action of a change. -/
def LoopSurvey.Change.action : LoopSurvey.Change → LoopSurvey.Journal.Action
  | .judge j => .judgment j.name
  | .setLevel level => .estimation level
  | .comment text => .comment text
  | .check checked => .checked checked
  | .setOpened opened => .opened opened
