import LoopSurvey.Outline.Node
import LoopSurvey.Decimal.Shortest
/-!
# Label markup

A label as markup for the web: the text in a span of its mark's class, a selector for the judgment,
a selector for the estimation level with the measure of each level, and an icon for a comment.
-/

namespace LoopSurvey.Markup

/-- A character of a text inside markup. -/
def escapeChar (c : Char) : List Char :=
  match c with
  | '&' => "&amp;".toList
  | '<' => "&lt;".toList
  | '>' => "&gt;".toList
  | '"' => "&quot;".toList
  | c => [c]

/-- A text inside markup: the characters that markup is made of stand as entities. -/
def escape (s : String) : String := String.ofList (s.toList.flatMap escapeChar)

/-- The element name of a node's comment icon. -/
def commentIconName (id : String) : String := "c_" ++ id

/-- The class of the measure of a level. -/
def levelName (id : String) (level : Nat) : String := id ++ "lv" ++ Nat.repr level

/-- An entry of a selector. -/
def option (value : String) (selected : Bool) : String :=
  let value := escape value
  "<option value=\"" ++ value ++ "\"" ++ (if selected then " selected" else "") ++ ">" ++ value
    ++ "</option>"

/-- The values a judgment selector offers: the given ones, and the current one if it is not among
them. -/
def offered (judgments : List String) (current : Judgment) : List String :=
  if judgments.contains current.name then judgments else judgments ++ [current.name]

/-- The judgment selector of a node. -/
def judgmentSelector (id : String) (judgments : List String) (current : Judgment) : String :=
  "<select class=\"judgment\" id=\"j_" ++ id ++ "\">"
    ++ String.join ((offered judgments current).map fun v => option v (v = current.name))
    ++ "</select>"

/-- The measure of a level, shown inline for the chosen one. -/
def levelMeasure (id : String) (metrics : Option Metrics) (current level : Nat) : String :=
  let value := (metrics.bind (·.factors[level]?)).getD 0
  "<span class=\"on_level " ++ levelName id level ++ "\""
    ++ (if level = current then " style=\"display:inline;\"" else "") ++ ">" ++ Decimal.plain value
    ++ "</span>"

/-- The level selector of a node and the measures of all levels. -/
def estimationSelector (id : String) (metrics : Option Metrics) (e : Estimation) : String :=
  let levels := List.range e.levels
  "<span class=\"estimation\" prev=\"" ++ Nat.repr e.level ++ "\"><select class=\"level\" id=\"e_"
    ++ id ++ "\">"
    ++ String.join (levels.map fun l => option (Nat.repr l) (l = e.level))
    ++ "</select>"
    ++ String.join (levels.map (levelMeasure id metrics e.level))
    ++ "</span>"

/-- The icon of a commented node. -/
def commentIcon (id : String) : String :=
  "<i class=\"jstree-icon comment-icon\" id=\"" ++ commentIconName id
    ++ "\" role=\"presentation\"></i>"

/-- The markup of a node's label, with the selectable judgments in their order. -/
def ofNode (n : Node) (judgments : List String) : String :=
  let id := n.id.text
  "<span class=\"" ++ n.label.mark.cssClass ++ "\">" ++ escape n.label.text ++ "</span>"
    ++ (match n.label.judgment with
      | some current => judgmentSelector id judgments current
      | none => "")
    ++ (match n.label.estimation with
      | some e => estimationSelector id n.payload.metrics e
      | none => "")
    ++ (if n.label.comment.isSome then commentIcon id else "")

/-- The title of a node's link is its comment. -/
def titleOf (n : Node) : Option String := n.label.comment

end LoopSurvey.Markup
