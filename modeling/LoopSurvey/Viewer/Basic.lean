import LoopSurvey.Journal.Entry
import LoopSurvey.Outline.Expand
import LoopSurvey.Screen.Palette
import LoopSurvey.Session.Debounce
import LoopSurvey.Session.Jump
import LoopSurvey.Session.Progress
import LoopSurvey.Viewer.Dialog
import LoopSurvey.Viewer.Pane
import LoopSurvey.Viewer.TreePane
/-!
# The viewer

The state of the interactive viewer: a session, the panes and dialogs that show it, and the requests
that wait to be sent. Every change to nodes leaves an entry for the journal.
-/

namespace LoopSurvey

/-- What the viewer is told once. -/
structure ViewerContext where
  identity : Journal.Identity := {}
  link : LinkContext := {}
  /-- The judgments in the order in which they are cycled through. -/
  judgments : List Judgment := []
  /-- Where the outline came from. -/
  dataAddress : Option String := none
  palette : Palette := {}

/-- What the viewer asks for. -/
inductive Request
  | journal (entry : Journal.Entry)
  | source (request : SourceRequest)
deriving DecidableEq

/-- What comes back. -/
inductive Arrival
  /-- An entry of the journal was refused. -/
  | alert (message : String)
  | loaded (request : SourceRequest) (text : String)
  | failed (request : SourceRequest)
deriving DecidableEq

/-- What keys mean for searching. -/
inductive SearchMode
  | inactive
  /-- A keyword is being typed. -/
  | editing
  /-- There are results to step through. -/
  | results
deriving DecidableEq, Repr

/-- A typed keyword is searched for after this many milliseconds without a key. -/
def searchDelay : Nat := 200

/-- The viewer. -/
structure Viewer where
  context : ViewerContext
  session : Session
  tree : TreePane := {}
  mode : SearchMode := .inactive
  query : String := ""
  scope : SearchScope := .all
  /-- The keyword that waits to be searched for. -/
  waiting : Debouncer String := { delay := searchDelay }
  dialog : Option Dialog := none
  /-- Failures that wait to be shown, first one first. -/
  alerts : List String := []
  source : Option SourcePane := none
  textTree : Option TextPane := none
  help : HelpPane := {}
  /-- The latest message of the last line. -/
  notice : Option String := none
  quit : Bool := false
  /-- Requests that wait to be sent, first one first. -/
  outbox : List Request := []

namespace Viewer

/-- Shows a message in the last line. -/
def say (v : Viewer) (message : String) : Viewer := { v with notice := some message }

/-- Asks for something. -/
def ask (v : Viewer) (r : Request) : Viewer := { v with outbox := v.outbox ++ [r] }

/-- Leaves an entry for the journal. -/
def post (v : Viewer) (ids : List NodeId) (action : Journal.Action) : Viewer :=
  v.ask (.journal (.on v.context.identity v.session.outline ids action))

/-- Brings the rows up to date. -/
def refresh (v : Viewer) : Viewer := { v with tree := v.tree.refresh v.session.outline }

/-- Puts the cursor on a node, or where it is hidden. -/
def focus (v : Viewer) (id : NodeId) : Viewer := { v with tree := v.tree.focus v.session.outline id }

/-- The place of the node under the cursor. -/
def place? (v : Viewer) : Option (Place Node) := v.tree.selected?.bind v.session.outline.locate?

/-- Makes an edit and journals it; a refused edit only leaves a message. -/
def edit (v : Viewer) (e : Edit) : Viewer :=
  match v.session.edit e with
  | (session, .ok touched) => (({ v with session }).post touched.affected e.change.action).refresh
  | (session, .error reason) => ({ v with session }).say reason.message

/-- Shows a presented result and its first node. -/
def showPresented (v : Viewer) (p : Presented) (what : String) : Viewer :=
  let v := v.refresh
  match p.first with
  | some first => ({ v.focus first with mode := .results }).say (what ++ ": " ++ Nat.repr p.count)
  | none => v.say (what ++ ": none")

/-- The mode when no keyword is typed. -/
def restingMode (v : Viewer) : SearchMode :=
  if v.session.results.isEmpty then .inactive else .results

/-- Opens the alert that has waited longest, or no dialog. -/
def nextDialog (v : Viewer) : Viewer :=
  match v.alerts with
  | [] => { v with dialog := none }
  | message :: rest => { v with dialog := some (.alert message), alerts := rest }

/-- The viewer of a session. The cursor is on the node viewed last, if there is one. -/
def start (context : ViewerContext) (session : Session) : Viewer :=
  let (session, last) := session.makeReady
  let v := ({ context, session } : Viewer).refresh
  match last with
  | some id => v.focus id
  | none => v

end Viewer

end LoopSurvey
