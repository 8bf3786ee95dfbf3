import LoopSurvey.Decimal.Shortest
import LoopSurvey.Viewer.Basic
/-!
# Styled lines

The lines of the panes and the last line of the screen, as pieces of text with their styles: the
rows of the outline, the lines of a source with its marks, and what the last line tells of the
search, the progress and the keys.
-/

namespace LoopSurvey

/-- The colour of what has the focus, and of messages. -/
def focusColor : Color := .lightGreen

/-- The colour of labels in the last line. -/
def labelColor : Color := .gray

/-- The colour of keys and values. -/
def keyColor : Color := .cyan

/-- The style of keys and values in the last line and in the help. -/
def keyStyle : Style := { Style.colored keyColor with bold := true }

/-! ## Rows of the outline -/

/-- The sign for whether there is more below a node. -/
def disclosure (p : Place Node) : String :=
  if p.isLeaf then "  " else if p.node.state.opened then "▾ " else "▸ "

/-- The estimation level, with the branch factor if it is known. -/
def estimationTag (n : Node) (e : Estimation) : String :=
  let factor := n.payload.metrics.bind fun m => m.factors[e.level]?
  "  L" ++ Nat.repr e.level ++ (match factor with
    | some x => ":" ++ Decimal.plain x
    | none => "")

/-- The row of a node at a depth, in a pane of some width: its signs, its text cut to the room left,
its judgment, its estimation and a sign for a comment. -/
def rowLine (palette : Palette) (p : Place Node) (depth width : Nat) : Line :=
  let label := p.node.label
  let markStyle := palette.markStyle label.mark
  let textStyle := if p.node.state.selected then palette.hitStyle.atop markStyle else markStyle
  [{ text := String.join (List.replicate depth "  ") },
    { text := disclosure p },
    { text := if p.node.state.checked then "[x] " else "[ ] " },
    { text := p.node.kind.glyph ++ " ", style := .colored .darkGray },
    { text := Text.clip label.text (max (width - (depth * 2 + 8)) 8), style := textStyle }]
  ++ (label.judgment.map fun j => { text := "  <" ++ j.name ++ ">", style := markStyle }).toList
  ++ (label.estimation.map fun e =>
    { text := estimationTag p.node e, style := .colored keyColor }).toList
  ++ (label.comment.map fun _ => { text := "  ✎", style := palette.commentStyle }).toList

/-- The line of a row in the outline. -/
def Viewer.rowLine (v : Viewer) (row : Row) (width : Nat) : Line :=
  match v.session.outline.locate? row.id with
  | some p => LoopSurvey.rowLine v.context.palette p row.depth width
  | none => [{ text := row.id.text }]

/-! ## Lines of a source -/

/-- Gives the characters of a line that belong to a mark another style. -/
def SourceMark.paint (m : SourceMark) (style : Style) (line : Nat) (styles : List Style) : List Style :=
  if m.isOn line then
    let first := if m.first.1 = line then m.first.2 else 0
    let last := if m.last.1 = line then m.last.2 else styles.length
    styles.mapIdx fun column before => if first ≤ column ∧ column < last then style else before
  else styles

/-- The style of the mark at a position over that of its line: it is reversed if it is looked at. -/
def markedStyle (focused : Option Nat) (base : Style) (mark : Nat) : Style :=
  let style := { base with underlined := true }
  if focused = some mark then { style with reversed := true } else style

/-- The styles of so many characters of a line. The marks are painted one over the other. -/
def charStyles (marks : List SourceMark) (focused : Option Nat) (base : Style) (line length : Nat) :
    List Style :=
  marks.zipIdx.foldl (fun styles m => m.1.paint (markedStyle focused base m.2) line styles)
    (List.replicate length base)

/-- Characters of one style as a piece. -/
def spanOf (run : List (Char × Style)) : Span where
  text := String.ofList (run.map (·.1))
  style := ((run.head?).map (·.2)).getD {}

/-- Characters with their styles as pieces of equal style. -/
def spansOf (cs : List (Char × Style)) : List Span :=
  (cs.splitBy fun a b => a.2 = b.2).map spanOf

/-- A number with blanks before it up to a width. -/
def padded (n width : Nat) : String :=
  let digits := Nat.repr n
  String.ofList (List.replicate (width - digits.length) ' ') ++ digits

/-- The style of the lines of a source, counted from 0: those of the node are set off. -/
def SourceView.lineStyle (view : SourceView) (palette : Palette) (line : Nat) : Style :=
  if view.highlight.any fun h => h.1 ≤ line && line < h.2 then palette.highlightStyle else {}

/-- The line of a source after its number. -/
def SourceView.textSpans (view : SourceView) (palette : Palette) (focused : Option Nat) (line : Nat)
    (text : String) : List Span :=
  let base := view.lineStyle palette line
  let chars := text.toList
  spansOf (chars.zip (charStyles view.marks focused base line chars.length))

/-- The lines of a source, each after its number. -/
def SourceView.styledLines (view : SourceView) (palette : Palette) (focused : Option Nat) :
    List Line :=
  let width := (Nat.repr view.lines.length).length
  view.lines.zipIdx.map fun (text, line) =>
    { text := padded (line + 1) width ++ " ", style := .colored .darkGray }
      :: view.textSpans palette focused line text

/-! ## The last line -/

namespace Viewer

/-- The position among the results, or that there are none for the keyword. -/
def matchCounter? (v : Viewer) : Option String :=
  let results := v.session.results
  if results.isEmpty then if v.query = "" then none else some "0"
  else some (Nat.repr (results.cursor + 1) ++ "/" ++ Nat.repr results.nodes.length)

/-- The progress of the survey, unless there are no targets. -/
def progressLabel? (v : Viewer) : Option String :=
  let p := v.session.progress
  p.percent?.map fun percent =>
    Nat.repr p.judged ++ "/" ++ Nat.repr p.total ++ " (" ++ Nat.repr percent ++ "%)"

/-- What stands between two entries. -/
def separator : Span := { text := " | ", style := .colored labelColor }

/-- An entry of the last line. -/
def footerEntry (entry : String × String) : Line :=
  [{ text := Text.capitalized entry.1 ++ ":", style := .colored labelColor },
    { text := entry.2, style := keyStyle }]

/-- The entries that tell of the search, the progress and the keys. -/
def helpEntries (v : Viewer) : List (String × String) :=
  (v.matchCounter?.map ("match", ·)).toList ++ [("src", v.scope.name)]
    ++ (v.progressLabel?.map ("progress", ·)).toList
    ++ (if v.source.isSome then [("marks", "Tab/Enter"), ("close", "Esc")]
      else if v.mode = .results then [("next", "n/N"), ("clear", "x")]
      else [("search", "/"), ("targets", "t")])
    ++ [("help", "?")]

/-- The last line while no keyword is typed. -/
def helpFooter (v : Viewer) (notice : Option String) : Line :=
  ((v.helpEntries.map footerEntry).intersperse [separator]).flatten
    ++ (notice.map fun text => { text := " | " ++ text, style := .colored focusColor }).toList

/-- The last line while a keyword is typed: the keyword, how far the search is, and the keys. -/
def searchFooter (v : Viewer) (notice : Option String) : Line :=
  let state : List Span :=
    if v.waiting.isPending then [{ text := "…", style := .colored .darkGray }]
    else (v.matchCounter?.map fun count => { text := count, style := .colored .lightGreen }).toList
  let message := (notice.map Text.trim).getD ""
  [{ text := "/", style := keyStyle }, { text := v.query },
      { text := "█", style := .colored labelColor }, { text := "   " }]
    ++ state
    ++ [("Src", v.scope.name), ("Accept", "Enter"), ("Close", "Esc")].flatMap
      (fun entry => separator :: footerEntry entry)
    ++ (if message = "" then []
      else [{ text := "   " }, { text := message, style := .colored focusColor }])

/-- The last line, with a message if there is one. -/
def footer (v : Viewer) (notice : Option String) : Line :=
  if v.mode = .editing then v.searchFooter notice else v.helpFooter notice

end Viewer

end LoopSurvey
