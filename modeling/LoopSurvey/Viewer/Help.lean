import LoopSurvey.Screen.Style
import LoopSurvey.Text.Blank
/-!
# Help and dialogs

What the help says about the keys, and what the dialogs say.
-/

namespace LoopSurvey

/-- The text with blanks before it up to a width. -/
def padLeft (s : String) (width : Nat) : String :=
  String.ofList (List.replicate (width - Text.width s) ' ') ++ s

/-- A line that tells what a key does; the keys of a column end at the same place. -/
def keyLine (columnWidth : Nat) (entry : String × String) : String :=
  padLeft entry.1 columnWidth ++ "  " ++ entry.2

/-- The sections of the help: what they are about, and the keys with what they do. -/
def helpSections : List (String × List (String × String)) :=
  [("Tree",
      [("j/k, ↑/↓, PgUp/PgDn, Home/End", "Move cursor"),
        ("Enter/l", "Open or close node"),
        ("h", "Close node or go to parent"),
        ("Space", "Toggle check"),
        ("e / z", "Expand all / collapse all below node"),
        ("E / R", "Expand target / relevant loops"),
        ("T", "Text tree")]),
    ("Search",
      [("/", "Search keyword (Enter runs now)"),
        ("Tab", "Cycle data source All/Code/Comment"),
        ("n/N", "Next/previous match"),
        ("x", "Clear matches")]),
    ("Navigate",
      [("t", "Jump to target nodes"),
        ("g", "Jump to callee"),
        ("o", "Jump to callee or open source"),
        ("O", "Open source"),
        ("C", "Jump to comments"),
        ("b", "Back")]),
    ("Edit",
      [("J", "Cycle judgment"),
        ("L", "Cycle estimation level"),
        ("c", "Edit comment")]),
    ("Source",
      [("j/k, PgUp/PgDn", "Scroll"),
        ("Tab", "Next annotated range"),
        ("Enter", "Follow annotated range"),
        ("Esc", "Close source")])]

/-- The width of the longest keys of the sections. -/
def helpKeyWidth : Nat :=
  (helpSections.flatMap (·.2)).foldl (fun n entry => max n (Text.width entry.1)) 0

/-- The lines of the help. -/
def helpLines : List String :=
  (helpSections.flatMap fun s =>
      ("--- " ++ s.1 ++ " ---") :: (s.2.map (keyLine helpKeyWidth) ++ [""]))
    ++ [keyLine helpKeyWidth ("Esc/?", "Close help"), keyLine helpKeyWidth ("q", "Quit")]

end LoopSurvey
