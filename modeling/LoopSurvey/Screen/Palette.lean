import LoopSurvey.Outline.Label
import LoopSurvey.Screen.Style
import LoopSurvey.Text.Blank
/-!
# Palettes

The colours of the parts of the screen. Single roles can be given other colours by a text of pairs
such as `target=#d7af00, hit=cyan`.
-/

namespace LoopSurvey

/-- The colours by role. -/
structure Palette where
  target : Color := .yellow
  completed : Color := .lightGreen
  hit : Color := .cyan
  comment : Color := .magenta
  highlight : Color := .darkGray
  error : Color := .red
deriving DecidableEq, Repr

/-- Why a palette was refused. -/
inductive PaletteError
  | entry (entry : String)
  | unknownRole (role : String)
  | color (role value : String)
deriving DecidableEq, Repr

/-- The wording of a palette error. -/
def PaletteError.message : PaletteError → String
  | .entry e => "invalid palette entry `" ++ e ++ "` (expected role=color)"
  | .unknownRole r => "unknown palette role `" ++ r ++ "`"
  | .color r v => "invalid color `" ++ v ++ "` for role `" ++ r ++ "`"

namespace Palette

/-- The palette with another colour for a role. -/
def with? (p : Palette) (role : String) (c : Color) : Option Palette :=
  match role with
  | "target" => some { p with target := c }
  | "completed" => some { p with completed := c }
  | "hit" => some { p with hit := c }
  | "comment" => some { p with comment := c }
  | "highlight" => some { p with highlight := c }
  | "error" => some { p with error := c }
  | _ => none

/-- Applies a pair of a role and a colour. The colour is looked at before the role. -/
def apply (p : Palette) (entry : String) : Except PaletteError Palette :=
  match Text.cutAt? '=' entry with
  | none => .error (.entry entry)
  | some (role, value) =>
    let role := Text.trim role
    let value := Text.trim value
    match Color.ofText? value with
    | none => .error (.color role value)
    | some c =>
      match p.with? role c with
      | some p => .ok p
      | none => .error (.unknownRole role)

/-- The default palette with the pairs of a text applied to it. Blank entries are passed over. -/
def parse (spec : String) : Except PaletteError Palette :=
  let entries := ((Text.piecesOf ',' spec.toList).map fun cs => Text.trim (String.ofList cs)).filter
    (· ≠ "")
  entries.foldlM apply {}

/-- The style of a mark. -/
def markStyle (p : Palette) : Mark → Style
  | .plain => {}
  | .target => { Style.colored p.target with bold := true }
  | .targetCompleted => Style.colored p.completed

/-- The style of the nodes of the active result. -/
def hitStyle (p : Palette) : Style := { foreground := some .black, background := some p.hit }

/-- The style of comments. -/
def commentStyle (p : Palette) : Style := Style.colored p.comment

/-- The style of the lines of the node whose source is viewed. -/
def highlightStyle (p : Palette) : Style := { background := some p.highlight }

/-- The style of failures. -/
def errorStyle (p : Palette) : Style := { Style.colored p.error with bold := true }

end Palette

end LoopSurvey
