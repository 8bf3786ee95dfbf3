import LoopSurvey.Outline.LineKey
import LoopSurvey.Source.Link
import LoopSurvey.Source.Range
import LoopSurvey.Text.Blank
/-!
# Source views

A source text prepared for viewing: its lines, the lines of the node it was opened for, and a mark
for each annotated range that tells what can be done there.
-/

namespace LoopSurvey

/-- The type guessed for a name that has no definition. -/
inductive TypeGuess
  | int
  | real
deriving DecidableEq, Repr

/-- Names that begin with one of the letters from `i` to `n` are integers, all others real. -/
def TypeGuess.ofName (name : String) : TypeGuess :=
  match name.toList.head? with
  | some c => if 'i' ≤ c ∧ c ≤ 'n' then int else real
  | none => real

/-- The title of a guess. -/
def TypeGuess.title : TypeGuess → String
  | int => "int?"
  | real => "real?"

/-- What following a mark does. -/
inductive MarkAction
  /-- The definition is in another file; the link is empty if its place is not known. -/
  | definitionLink (link title : String)
  /-- The definition is in this file, at a line counted from 0. -/
  | scrollTo (line : Nat) (title : String)
  /-- There is no definition. -/
  | guess (type : TypeGuess)
deriving DecidableEq, Repr

/-- The title of an action. -/
def MarkAction.title : MarkAction → String
  | definitionLink _ title => title
  | scrollTo _ title => title
  | guess type => type.title

/-- An annotated span of the text. Lines and columns count from 0, and the end is not part of it. -/
structure SourceMark where
  first : Nat × Nat
  last : Nat × Nat
  text : String
  action : MarkAction
deriving DecidableEq, Repr

/-- What is needed to view the source of a node. -/
structure SourceRequest where
  path : String
  address : String
  link : String
  startLine : Nat
  endLine : Nat
  ranges : Option String
  locator : Option Locator
deriving DecidableEq, Repr

/-- A source text prepared for viewing. -/
structure SourceView where
  path : String
  lines : List String
  /-- The first line of the node and the one after its last, counted from 0. -/
  highlight : Option (Nat × Nat)
  /-- The line to begin at. -/
  scrollTo : Option Nat
  marks : List SourceMark
deriving DecidableEq, Repr

/-- Why a source cannot be viewed. -/
inductive ViewError
  | missingLocation (node : NodeId)
  | ranges (fault : Json.Fault)
deriving DecidableEq

/-- The wording of a view error. -/
def ViewError.message : ViewError → String
  | .missingLocation id => s!"node {id.text} has no source location"
  | .ranges _ => "malformed annotation ranges:"

namespace SourceRequest

/-- The request for the source of a node. -/
def ofNode (n : Node) (c : LinkContext) : Except ViewError SourceRequest :=
  match n.payload.path with
  | none => .error (.missingLocation n.id)
  | some path => .ok {
      path
      address := c.sourceAddress n.payload
      link := c.link n.payload
      startLine := n.line
      endLine := n.payload.endLine.getD 0
      ranges := n.payload.ranges
      locator := some c.locator }

end SourceRequest

namespace SourceMark

/-- The part of a line from one column to before another, or to its end. A line that is not there is
empty. -/
def slice (lines : List String) (line first : Nat) (last : Option Nat) : List Char :=
  let rest := ((lines[line]?).getD "").toList.drop first
  match last with
  | some last => rest.take (last - first)
  | none => rest

/-- The text of a span: the parts of its lines, joined by line feeds. -/
def textBetween (lines : List String) (first last : Nat × Nat) : List Char :=
  if first.1 = last.1 then slice lines first.1 first.2 (some last.2)
  else
    slice lines first.1 first.2 none
      ++ (List.range' (first.1 + 1) (last.1 - (first.1 + 1))).flatMap (fun line =>
        '\n' :: slice lines line 0 none)
      ++ '\n' :: slice lines last.1 0 (some last.2)

/-- The action of a range whose text is known. -/
def actionFor (lines : List String) (locator : Option Locator) (text : String) :
    Option Definition → MarkAction
  | some { line, path := some path, code } =>
    .definitionLink ((locator.map (·.definitionLink path line)).getD "")
      (code.getD "???" ++ " [" ++ Nat.repr line ++ ":" ++ path ++ "]")
  | some { line, path := none, .. } =>
    .scrollTo (line - 1)
      (Text.trim ((lines[line - 1]?).getD "") ++ " [" ++ Nat.repr line ++ "]")
  | none => .guess (TypeGuess.ofName text)

/-- The mark of a range. The end of a range is its last character. -/
def ofRange (lines : List String) (locator : Option Locator) (r : AnnotationRange) : SourceMark :=
  let first := (r.start.line - 1, r.start.column)
  let last := (r.stop.line - 1, r.stop.column + 1)
  let text := String.ofList (textBetween lines first last)
  { first, last, text, action := actionFor lines locator text r.definition }

/-- Whether a line, counted from 0, is one of the lines of the span. -/
def isOn (m : SourceMark) (line : Nat) : Bool := m.first.1 ≤ line && line ≤ m.last.1

end SourceMark

namespace SourceView

/-- The ranges of a request; blank text holds none. -/
def rangesOf (r : SourceRequest) : Except ViewError (List AnnotationRange) :=
  match r.ranges with
  | none => .ok []
  | some text =>
    if Text.trim text = "" then .ok []
    else
      match AnnotationRange.parseAll text with
      | .ok ranges => .ok ranges
      | .error fault => .error (.ranges fault)

/-- Prepares a text for viewing. -/
def build (text : String) (r : SourceRequest) : Except ViewError SourceView := do
  let lines := Text.lines text
  let ranges ← rangesOf r
  let locator := r.locator.or (Locator.ofAddress? r.address)
  pure {
    path := r.path
    lines
    highlight :=
      if 0 < r.startLine ∧ r.startLine ≤ r.endLine then
        some (r.startLine - 1, min r.endLine lines.length)
      else none
    scrollTo := if 0 < r.startLine then some (r.startLine - 1) else none
    marks := ranges.map (SourceMark.ofRange lines locator) }

/-- The marks on a line. -/
def marksOn (v : SourceView) (line : Nat) : List SourceMark := v.marks.filter (·.isOn line)

end SourceView

end LoopSurvey
