import LoopSurvey.Outline.Basic
import LoopSurvey.Text.Blank
/-!
# The text tree

The whole outline as indented text: a line for each node in pre-order, whatever is opened or closed.
-/

namespace LoopSurvey

/-- The source lines of a node in brackets, if its file and start line are known. -/
def Payload.location (p : Payload) : String :=
  match p.path, p.startLine with
  | some path, some first =>
    let last := match p.endLine with
      | some last => if last = first then "" else "-" ++ Nat.repr last
      | none => ""
    "  (" ++ path ++ ":" ++ Nat.repr first ++ last ++ ")"
  | _, _ => ""

/-- The completed judgment of a label in angle brackets. -/
def Label.judgmentTag (l : Label) : String :=
  match l.judgment with
  | some (.judged value) => " <" ++ value ++ ">"
  | _ => ""

/-- The line of a node: two blanks for each ancestor, the kind, the text, the location and the
completed judgment. -/
def Place.textLine (p : Place Node) : String :=
  String.join (List.replicate p.depth "  ") ++ "[" ++ p.node.kind.name ++ "] " ++ p.node.label.text
    ++ p.node.payload.location ++ p.node.label.judgmentTag

/-- The text tree, each line with its end. -/
def Outline.textTree (o : Outline) : String :=
  String.join (o.places.map fun p => p.textLine ++ "\n")

/-- The address of the text tree that belongs to a data address: its query is kept. -/
def textTreeAddress (dataAddress : String) : String :=
  "texttree?" ++ (match Text.cutAt? '?' dataAddress with
    | some (_, query) => query
    | none => "")

end LoopSurvey
