import LoopSurvey.Screen.Canvas
import LoopSurvey.Screen.Wrap
import LoopSurvey.Viewer.Help
import LoopSurvey.Viewer.Lines
/-!
# Drawing

The screen of a viewer. First the panes are laid out, which fixes their heights and moves their
windows; then they are drawn from the bottom up: the panes, the last line, the dialog, and the help.
-/

namespace LoopSurvey

/-- A title of a pane: the key that opens it, its name, and what it shows. -/
def paneTitle (name : String) (key : Char) (tail : Option String) : String :=
  let shown := (tail.map Text.trim).getD ""
  "─[" ++ String.singleton key ++ "]─ " ++ name ++ (if shown = "" then "" else " " ++ shown) ++ " "

/-- The share of the height that the outline keeps while a source is open, in percent. -/
def outlineShare : Nat := 15

/-- The word at the end of the last line. -/
def brand : String := "EBT"

namespace Dialog

/-- The most entries of a list of comments that are shown at once. -/
def shownComments : Nat := 10

/-- The title of a dialog. -/
def title : Dialog → String
  | jumpOrOpen .. => "Callee"
  | commentEditor node _ => "Comment " ++ node.text
  | commentList entries .. => "Comments (" ++ Nat.repr entries.length ++ ")"
  | expandConfirm .. => "Expand all"
  | alert _ => "Log failure"

/-- The shares of the screen a dialog takes, width and height. -/
def shares : Dialog → Nat × Nat
  | jumpOrOpen .. => (60, 30)
  | commentEditor .. => (70, 30)
  | commentList .. => (70, 50)
  | expandConfirm .. => (60, 25)
  | alert _ => (60, 25)

/-- The line of an entry in a list of comments. -/
def commentLine (picked : List Nat) (i : Nat) (entry : NodeId × String) : String :=
  (if i ∈ picked then "[x] " else "[ ] ") ++ entry.1.text ++ ": " ++ entry.2

/-- What a dialog says. -/
def lines : Dialog → List String
  | jumpOrOpen _ callee candidates =>
    ["`" ++ callee ++ "` has " ++ Nat.repr candidates.length ++ " definition(s).", "",
      keyLine 8 ("j/Enter", "Jump to callee"), keyLine 8 ("o", "Open source"),
      keyLine 8 ("Esc", "Cancel")]
  | commentEditor _ text =>
    [text ++ "█", "", "Enter saves, empty text removes the comment, Esc cancels."]
  | commentList entries cursor picked =>
    let first := cursor - (shownComments - 1)
    (((entries.zipIdx.drop first).take shownComments).map fun (entry, i) =>
        commentLine picked i entry)
      ++ ["", "Space picks, Enter jumps, Esc cancels."]
  | expandConfirm node n =>
    ["Expand " ++ Nat.repr n ++ " nodes below " ++ node.text ++ "?", "",
      keyLine 8 ("y/Enter", "Expand"), keyLine 8 ("n/Esc", "Cancel")]
  | alert message => [message, "", "Press any key."]

end Dialog

namespace Canvas

/-- Draws a box around an area, with a title. -/
def framed (c : Canvas) (a : Area) (title : String) : Canvas :=
  (c.drawBox a).writeTitle a title.toList

/-- Draws a box with lines inside that are wrapped, over whatever was there. The first lines are
skipped. -/
def writeOver (c : Canvas) (a : Area) (title : String) (lines : List String) (skipped : Nat) :
    Canvas :=
  let wrapped := lines.flatMap fun line => wrapLine a.inner.width line.toList
  ((c.clear a).framed a ("─ " ++ title ++ " ─")).writeLines a.inner (wrapped.drop skipped)

end Canvas

namespace Viewer

/-- The screen without its last line. -/
def mainArea (width height : Nat) : Area := { width, height := height - 1 }

/-- The area of the help. -/
def helpArea (main : Area) : Area := main.centred 82 84

/-- The areas of the outline and of the source pane. The outline has all unless a source is open. -/
def paneAreas (v : Viewer) (main : Area) : Area × Area :=
  if v.source.isSome then main.splitRows outlineShare else (main, { main with height := 0 })

/-- Lays the panes out that are to be drawn on a screen. -/
def layOut (v : Viewer) (width height : Nat) : Viewer :=
  let main := mainArea width height
  let (upper, lower) := v.paneAreas main
  let help :=
    if v.help.shown then v.help.layOut helpLines.length (helpArea main).inner.height else v.help
  match v.textTree with
  | some pane => { v with help, textTree := some { pane with height := main.inner.height } }
  | none =>
    { v with
      help
      tree := v.tree.layOut upper.inner.height
      source := v.source.map fun pane => { pane with height := lower.inner.height } }

/-- Draws the outline. -/
def drawTree (v : Viewer) (c : Canvas) (a : Area) : Canvas :=
  (c.framed a (paneTitle "Outline" 'o' (some v.context.link.project))).writeLines a.inner
    (v.tree.shown.map fun row => (v.rowLine row a.inner.width).chars)

/-- Draws the source pane. -/
def drawSource (v : Viewer) (pane : SourcePane) (c : Canvas) (a : Area) : Canvas :=
  let lines := match pane.view with
    | some view => (view.styledLines v.context.palette pane.focused).map Line.chars
    | none => ["loading…".toList]
  (((c.framed a (paneTitle "Source" 'O' (some pane.request.path))).writeFoot a
    pane.status.toList)).writeLines a.inner (lines.drop pane.scroll)

/-- Draws the text tree. -/
def drawTextTree (pane : TextPane) (c : Canvas) (a : Area) : Canvas :=
  (c.framed a (paneTitle "Text tree" 'T' pane.address)).writeLines a.inner
    ((pane.lines.drop pane.scroll).map String.toList)

/-- Draws the last line. -/
def drawFooter (v : Viewer) (c : Canvas) (width height : Nat) : Canvas :=
  let room := brand.length + 1
  let left : Area := { y := height - 1, width := width - room, height := 1 }
  (c.writeLines left [(v.footer v.notice).chars]).write (width - brand.length) (height - 1)
    brand.toList

/-- Draws a viewer that has been laid out for a screen of that size. -/
def draw (v : Viewer) (width height : Nat) : Canvas :=
  let main := mainArea width height
  let (upper, lower) := v.paneAreas main
  let c := Canvas.blank width height
  let c := match v.textTree, v.source with
    | some pane, _ => drawTextTree pane c main
    | none, some pane => v.drawSource pane (v.drawTree c upper) lower
    | none, none => v.drawTree c main
  let c := v.drawFooter c width height
  let c := match v.dialog with
    | some dialog =>
      let (w, h) := dialog.shares
      c.writeOver (main.centred w h) dialog.title dialog.lines 0
    | none => c
  if v.help.shown then c.writeOver (helpArea main) "Help" helpLines v.help.scroll else c

end Viewer

end LoopSurvey
