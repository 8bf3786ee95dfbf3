import LoopSurvey.Source.View
import LoopSurvey.Viewer.Key
/-!
# Panes of text

The pane with the source of a node, which arrives after the pane was opened; the pane with the text
tree; and the help. Each is scrolled by whole lines.
-/

namespace LoopSurvey

/-- The last line that can be the first one shown. -/
def lastScroll (lines height : Nat) : Nat := lines - max height 1

/-! ## The source of a node -/

/-- The source pane. There is no view until the text has arrived. -/
structure SourcePane where
  request : SourceRequest
  view : Option SourceView := none
  scroll : Nat := 0
  /-- The mark that is looked at. -/
  focused : Option Nat := none
  height : Nat := 0
deriving DecidableEq

namespace SourcePane

/-- The marks of the text. -/
def marks (p : SourcePane) : List SourceMark := (p.view.map (·.marks)).getD []

/-- The mark that is looked at. -/
def focusedMark? (p : SourcePane) : Option SourceMark := p.focused.bind fun i => p.marks[i]?

/-- What the pane tells: the title of the mark that is looked at, or the link of the node. -/
def status (p : SourcePane) : String :=
  match p.focusedMark? with
  | some mark => " " ++ mark.action.title ++ " "
  | none => if p.request.link = "" then "" else " " ++ p.request.link ++ " "

/-- The furthest that the pane scrolls to. -/
def maxScroll (p : SourcePane) : Nat :=
  lastScroll ((p.view.map (·.lines.length)).getD 0) p.height

/-- Scrolls down by some lines, or up if they are negative, and not beyond the end. -/
def scrollBy (p : SourcePane) (lines : Int) : SourcePane :=
  { p with scroll := min ((p.scroll : Int) + lines).toNat p.maxScroll }

/-- Scrolls. -/
def move (p : SourcePane) : Motion → SourcePane
  | .down => p.scrollBy 1
  | .up => p.scrollBy (-1)
  | .pageDown => p.scrollBy (page p.height)
  | .pageUp => p.scrollBy (-(page p.height : Int))
  | .first => { p with scroll := 0 }
  | .last => { p with scroll := p.maxScroll }

/-- The mark after the one looked at, which starts over after the last. -/
def nextMark? (p : SourcePane) : Option Nat :=
  if p.marks.isEmpty then none
  else match p.focused with
    | none => some 0
    | some i => some ((i + 1) % p.marks.length)

/-- Looks at the next mark and scrolls its first line to the middle. -/
def focusNext (p : SourcePane) : SourcePane :=
  let p := { p with focused := p.nextMark? }
  match p.focusedMark? with
  | some mark => { p with scroll := mark.first.1 - p.height / 2 }
  | none => p

end SourcePane

/-! ## The text tree -/

/-- The text tree pane. -/
structure TextPane where
  text : String
  /-- The address the same text can be had from. -/
  address : Option String := none
  scroll : Nat := 0
  height : Nat := 0
deriving DecidableEq

namespace TextPane

/-- The lines of the text. -/
def lines (p : TextPane) : List String := Text.lines p.text

/-- The furthest that the pane scrolls to. -/
def maxScroll (p : TextPane) : Nat := lastScroll p.lines.length p.height

/-- Scrolls. -/
def move (p : TextPane) : Motion → TextPane
  | .down => { p with scroll := min (p.scroll + 1) p.maxScroll }
  | .up => { p with scroll := p.scroll - 1 }
  | .pageDown => { p with scroll := min (p.scroll + max p.height 1) p.maxScroll }
  | .pageUp => { p with scroll := p.scroll - max p.height 1 }
  | .first => { p with scroll := 0 }
  | .last => { p with scroll := p.maxScroll }

end TextPane

/-! ## Help -/

/-- The help, which is drawn over everything else while it is shown. -/
structure HelpPane where
  shown : Bool := false
  scroll : Nat := 0
  height : Nat := 0
deriving DecidableEq

namespace HelpPane

/-- No scroll position is greater; one beyond the end comes down when the help is laid out. -/
def scrollLimit : Nat := 65535

/-- Scrolls. -/
def move (p : HelpPane) : Motion → HelpPane
  | .down => { p with scroll := min (p.scroll + 1) scrollLimit }
  | .up => { p with scroll := p.scroll - 1 }
  | .pageDown => { p with scroll := min (p.scroll + p.height) scrollLimit }
  | .pageUp => { p with scroll := p.scroll - p.height }
  | .first => { p with scroll := 0 }
  | .last => { p with scroll := scrollLimit }

/-- Lays the help out with a number of lines and a height. -/
def layOut (p : HelpPane) (lines height : Nat) : HelpPane :=
  { p with height, scroll := min p.scroll (min (lastScroll lines height) scrollLimit) }

end HelpPane

end LoopSurvey
