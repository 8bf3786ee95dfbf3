import LoopSurvey.Outline.TextTree
import LoopSurvey.Viewer.Search
/-!
# Commands

What can be done with the node under the cursor and with the outline, and the key for each.
-/

namespace LoopSurvey

/-- A command to the outline. -/
inductive TreeCommand
  | quit | help
  | toggleOpened | closeOrParent | toggleChecked
  | typeKeyword | cycleScope | nextResult | previousResult | clearResults
  | jumpTargets | jumpCallee | jumpOrOpen | openSource
  | cycleJudgment | cycleEstimation | editComment | listComments
  | expandAll | expandLoops (flag : LoopFlag) | collapseAll
  | back | textTree
deriving DecidableEq, Repr

/-- The keys of the commands. -/
def TreeCommand.keys : List (Key × TreeCommand) :=
  [(.char 'q', quit), (.char '?', help), (.enter, toggleOpened), (.char 'l', toggleOpened),
    (.char 'h', closeOrParent), (.char ' ', toggleChecked), (.char '/', typeKeyword),
    (.tab, cycleScope), (.char 'n', nextResult), (.char 'N', previousResult),
    (.char 'x', clearResults), (.escape, clearResults), (.char 't', jumpTargets),
    (.char 'g', jumpCallee), (.char 'o', jumpOrOpen), (.char 'O', openSource),
    (.char 'J', cycleJudgment), (.char 'L', cycleEstimation), (.char 'c', editComment),
    (.char 'C', listComments), (.char 'e', expandAll), (.char 'E', expandLoops .target),
    (.char 'R', expandLoops .relevant), (.char 'z', collapseAll), (.char 'b', back),
    (.char 'T', textTree)]

/-- The command of a key. -/
def Key.command? (k : Key) : Option TreeCommand := TreeCommand.keys.lookup k

namespace Viewer

/-! ## The state of a node -/

/-- Opens or closes the node. -/
def toggleOpened (v : Viewer) : Viewer :=
  match v.place? with
  | none => v
  | some p =>
    if p.isLeaf then v.say "Leaf node"
    else v.edit ⟨p.id, .setOpened (!p.node.state.opened)⟩

/-- Closes the node, or goes to its parent if it is closed. -/
def closeOrParent (v : Viewer) : Viewer :=
  match v.place? with
  | none => v
  | some p =>
    if p.node.state.opened && !p.isLeaf then v.edit ⟨p.id, .setOpened false⟩
    else match p.parents with
      | parent :: _ => v.focus parent
      | [] => v

/-- Checks or unchecks the node. -/
def toggleChecked (v : Viewer) : Viewer :=
  match v.place? with
  | none => v
  | some p => v.edit ⟨p.id, .check (!p.node.state.checked)⟩

/-- The judgment after another one, which starts over after the last. One that is not in the list is
followed by the first. -/
def judgmentAfter? (judgments : List Judgment) (current : Judgment) : Option Judgment :=
  match judgments.findIdx? (· = current) with
  | some i => judgments[(i + 1) % judgments.length]?
  | none => judgments[0]?

/-- Gives the node the next judgment. -/
def cycleJudgment (v : Viewer) : Viewer :=
  match v.place? with
  | none => v
  | some p =>
    match p.node.label.judgment with
    | none => v.say "No judgment for this node"
    | some current =>
      match judgmentAfter? v.context.judgments current with
      | some judgment => v.edit ⟨p.id, .judge judgment⟩
      | none => v

/-- Gives the node the next estimation level. -/
def cycleEstimation (v : Viewer) : Viewer :=
  match v.place? with
  | none => v
  | some p =>
    match p.node.label.estimation with
    | none => v.say "No estimation scheme for this node"
    | some e => v.edit ⟨p.id, .setLevel e.next⟩

/-! ## Comments -/

/-- Opens the comment of the node for writing. -/
def editComment (v : Viewer) : Viewer :=
  match v.place? with
  | none => v
  | some p => { v with dialog := some (.commentEditor p.id (p.node.label.comment.getD "")) }

/-- Lists the comments. -/
def listComments (v : Viewer) : Viewer :=
  match v.session.comments with
  | [] => v.say "No comments"
  | entries => { v with dialog := some (.commentList entries 0 []) }

/-! ## Expanding -/

/-- Expands a node and journals it. -/
def expandNow (v : Viewer) (id : NodeId) : Viewer :=
  let session := v.session.withOutline (v.session.outline.expandAll id).1
  (({ v with session }).post [id] .expandAll).refresh

/-- Expands all below the node; many descendants are confirmed first. -/
def expandAll (v : Viewer) : Viewer :=
  match v.tree.selected? with
  | none => v
  | some id =>
    match v.session.outline.planExpandAll id with
    | .nothing => v.say "Nothing to expand"
    | .run => v.expandNow id
    | .confirm n => { v with dialog := some (.expandConfirm id n) }

/-- The journalled action of showing flagged loops. -/
def loopAction : LoopFlag → Journal.Action
  | .target => .expandTargetLoops
  | .relevant => .expandRelevantLoops

/-- Shows the flagged loops below the node. -/
def expandLoops (v : Viewer) (flag : LoopFlag) : Viewer :=
  match v.place? with
  | none => v
  | some p =>
    if p.isLeaf then v
    else
      let session := v.session.withOutline (v.session.outline.expandLoops p.id flag).1
      (({ v with session }).post [p.id] (loopAction flag)).refresh

/-- Closes the node and all below it. -/
def collapseAll (v : Viewer) : Viewer :=
  match v.tree.selected? with
  | none => v
  | some id =>
    let session := v.session.withOutline (v.session.outline.collapseAll id).1
    (({ v with session }).post [id] .collapseAll).refresh

/-! ## Jumps and panes -/

/-- Opens the source of a node: the pane is there at once, the text arrives later. -/
def openSource (v : Viewer) (id : NodeId) : Viewer :=
  match v.session.outline.node? id with
  | none => v
  | some n =>
    match SourceRequest.ofNode n v.context.link with
    | .error e => v.say e.message
    | .ok request =>
      { (v.post [id] .openSource).ask (.source request) with source := some { request } }

/-- Goes to the targets. -/
def jumpTargets (v : Viewer) : Viewer :=
  let v := { v with query := "" }
  match v.session.jumpToTargets with
  | (session, some presented) => ({ v with session }).showPresented presented "Targets"
  | (_, none) => v.say "No target nodes"

/-- Goes from a node to candidates of its callee. -/
def jumpToCandidates (v : Viewer) (id : NodeId) (candidates : List NodeId) : Viewer :=
  let (session, presented) := v.session.jumpToCandidates id candidates
  ({ v with session }).showPresented presented "Callees"

/-- Goes to the callee of the node. -/
def jumpCallee (v : Viewer) : Viewer :=
  match v.tree.selected? with
  | none => v
  | some id =>
    match v.session.calleeChoice id with
    | (session, .ask _ candidates) => ({ v with session, query := "" }).jumpToCandidates id candidates
    | (session, .openSource) => (({ v with session, query := "" }).refresh).say "No callee to jump to"

/-- Asks whether to go to the callee of the node; opens the source if there is none. -/
def jumpOrOpen (v : Viewer) : Viewer :=
  match v.tree.selected? with
  | none => v
  | some id =>
    match v.session.calleeChoice id with
    | (session, .ask callee candidates) =>
      { ({ v with session, query := "" }).refresh with
        dialog := some (.jumpOrOpen id callee candidates) }
    | (session, .openSource) => (({ v with session, query := "" }).refresh).openSource id

/-- Opens the source of the node under the cursor. -/
def openSelectedSource (v : Viewer) : Viewer :=
  match v.tree.selected? with
  | none => v
  | some id => v.openSource id

/-- Goes back to the node visited last. -/
def goBack (v : Viewer) : Viewer :=
  match v.session.backTo? with
  | some id => v.focus id
  | none => v.say "History is empty"

/-- Opens the text tree. -/
def openTextTree (v : Viewer) : Viewer :=
  { v with textTree := some {
      text := v.session.outline.textTree
      address := v.context.dataAddress.map textTreeAddress } }

/-- Carries out a command. -/
def perform (v : Viewer) : TreeCommand → Viewer
  | .quit => { v with quit := true }
  | .help => { v with help := { v.help with shown := true, scroll := 0 } }
  | .toggleOpened => v.toggleOpened
  | .closeOrParent => v.closeOrParent
  | .toggleChecked => v.toggleChecked
  | .typeKeyword => { v with mode := .editing }
  | .cycleScope => v.cycleScope
  | .nextResult => v.stepResult true
  | .previousResult => v.stepResult false
  | .clearResults => v.clearSearch
  | .jumpTargets => v.jumpTargets
  | .jumpCallee => v.jumpCallee
  | .jumpOrOpen => v.jumpOrOpen
  | .openSource => v.openSelectedSource
  | .cycleJudgment => v.cycleJudgment
  | .cycleEstimation => v.cycleEstimation
  | .editComment => v.editComment
  | .listComments => v.listComments
  | .expandAll => v.expandAll
  | .expandLoops flag => v.expandLoops flag
  | .collapseAll => v.collapseAll
  | .back => v.goBack
  | .textTree => v.openTextTree

end Viewer

end LoopSurvey
