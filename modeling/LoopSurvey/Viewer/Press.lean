import LoopSurvey.Viewer.Command
/-!
# Keys and ticks

A key goes to what is on top: the help, the dialog, the keyword that is typed, the text tree, the
source pane, and the outline at last. A tick starts the search that is due and takes in what has
arrived. A failure that arrived is shown once no dialog is open.
-/

namespace LoopSurvey

namespace Viewer

/-! ## Keys -/

/-- A key while the help is shown. -/
def pressHelp (v : Viewer) (key : Key) : Viewer :=
  match key.motion? with
  | some m => { v with help := v.help.move m }
  | none =>
    if key = .escape ∨ key = .char '?' then { v with help := { v.help with shown := false } }
    else if key = .char 'q' then { v with quit := true }
    else v

/-- A key while the text tree is shown. -/
def pressTextTree (v : Viewer) (pane : TextPane) (key : Key) : Viewer :=
  match key.motion? with
  | some m => { v with textTree := some (pane.move m) }
  | none =>
    if key = .escape ∨ key = .char 'q' ∨ key = .char 'T' then { v with textTree := none } else v

/-- Follows the mark that is looked at: within the file the pane scrolls, elsewhere the link is
told. -/
def followMark (v : Viewer) (pane : SourcePane) : Viewer :=
  match pane.focusedMark?.map SourceMark.action with
  | none => v
  | some (.scrollTo line _) =>
    { v with source := some { pane with scroll := min line pane.maxScroll } }
  | some (.definitionLink link title) => v.say (if link = "" then title else link)
  | some (.guess type) => v.say type.title

/-- A key while the source pane is open; none if it is not for the pane. -/
def pressSource? (v : Viewer) (pane : SourcePane) (key : Key) : Option Viewer :=
  match key.motion? with
  | some m => some { v with source := some (pane.move m) }
  | none =>
    if key = .escape ∨ key = .char 'q' then some { v with source := none }
    else if key = .tab then some { v with source := some pane.focusNext }
    else if key = .enter then some (v.followMark pane)
    else none

/-- A key for the outline. -/
def pressTree (v : Viewer) (key : Key) : Viewer :=
  match key.motion? with
  | some m => { v with tree := v.tree.move m }
  | none =>
    match key.command? with
    | some command => v.perform command
    | none => v

/-- A key for the list of comments. -/
def pressComments (v : Viewer) (entries : List (NodeId × String)) (cursor : Nat) (picked : List Nat)
    (key : Key) : Viewer × Option Dialog :=
  match key with
  | .enter =>
    let v := { v with query := "" }
    match v.session.jumpTo (Dialog.chosen entries cursor picked) with
    | (session, some presented) => (({ v with session }).showPresented presented "Comments", none)
    | (_, none) => (v, none)
  | .escape => (v, none)
  | .char ' ' => (v, some (.commentList entries cursor (Dialog.togglePicked picked cursor)))
  | key =>
    match key.motion? with
    | some .down => (v, some (.commentList entries (min (cursor + 1) (entries.length - 1)) picked))
    | some .up => (v, some (.commentList entries (cursor - 1) picked))
    | _ => (v, some (.commentList entries cursor picked))

/-- A key for a dialog: the viewer after it, and the dialog that stays open, if one does. -/
def answerDialog (v : Viewer) (dialog : Dialog) (key : Key) : Viewer × Option Dialog :=
  match dialog with
  | .jumpOrOpen node _ candidates =>
    if key = .enter ∨ key = .char 'j' ∨ key = .char 'y' then
      (v.jumpToCandidates node candidates, none)
    else if key = .char 'o' ∨ key = .char 'n' then (v.openSource node, none)
    else if key = .escape then (v, none)
    else (v, some dialog)
  | .commentEditor node text =>
    match key with
    | .enter => (v.edit ⟨node, .comment text⟩, none)
    | .escape => (v, none)
    | .backspace => (v, some (.commentEditor node (withoutLast text)))
    | .char c => (v, some (.commentEditor node (text.push c)))
    | _ => (v, some dialog)
  | .commentList entries cursor picked => v.pressComments entries cursor picked key
  | .expandConfirm node _ =>
    if key = .enter ∨ key = .char 'y' then (v.expandNow node, none)
    else if key = .escape ∨ key = .char 'n' then (v, none)
    else (v, some dialog)
  | .alert _ => (v, none)

/-- A key while a dialog is open. When it closes, the next alert is shown. -/
def pressDialog (v : Viewer) (dialog : Dialog) (key : Key) : Viewer :=
  match ({ v with dialog := none }).answerDialog dialog key with
  | (v, some dialog) => { v with dialog := some dialog }
  | (v, none) => v.nextDialog

/-- A key, pressed at a time. -/
def press (v : Viewer) (now : Nat) (key : Key) : Viewer :=
  if v.help.shown then v.pressHelp key
  else match v.dialog with
    | some dialog => v.pressDialog dialog key
    | none =>
      if v.mode = .editing then v.pressSearch now key
      else match v.textTree with
        | some pane => v.pressTextTree pane key
        | none =>
          match v.source.bind (v.pressSource? · key) with
          | some v => v
          | none => v.pressTree key

/-! ## Arrivals -/

/-- Takes in the text of a source. Texts that were not asked for by the open pane are dropped; a text
that cannot be viewed closes the pane. -/
def receiveSource (v : Viewer) (request : SourceRequest) (text : String) : Viewer :=
  match v.source.filter (·.request = request) with
  | none => v
  | some pane =>
    match SourceView.build text request with
    | .ok view =>
      { v with source := some { pane with view := some view, scroll := view.scrollTo.getD 0 } }
    | .error e => ({ v with source := none }).say e.message

/-- Takes in what has arrived. -/
def receive (v : Viewer) : Arrival → Viewer
  | .alert message => { v with alerts := v.alerts ++ [message] }
  | .loaded request text => v.receiveSource request text
  | .failed request =>
    if v.source.any (·.request = request) then { v with source := none } else v

/-- Shows the next alert if no dialog is open. -/
def showAlert (v : Viewer) : Viewer := if v.dialog.isNone then v.nextDialog else v

/-- Takes in all that has arrived, and shows the next alert. -/
def receiveAll (v : Viewer) (arrivals : List Arrival) : Viewer :=
  (arrivals.foldl receive v).showAlert

/-- A tick: the search that is due, and then what has arrived. -/
def tick (v : Viewer) (now : Nat) (arrivals : List Arrival) : Viewer :=
  (v.fireDue now).receiveAll arrivals

end Viewer

/-- What happens to a viewer. -/
inductive ViewerEvent
  | key (now : Nat) (key : Key)
  | tick (now : Nat) (arrivals : List Arrival)

namespace Viewer

/-- The viewer after an event. -/
def step (v : Viewer) : ViewerEvent → Viewer
  | .key now key => v.press now key
  | .tick now arrivals => v.tick now arrivals

/-- The viewer after events. -/
def run (v : Viewer) (events : List ViewerEvent) : Viewer := events.foldl step v

end Viewer

end LoopSurvey
