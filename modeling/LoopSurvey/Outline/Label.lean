import LoopSurvey.Outline.Id
/-!
# Labels

What a surveyor sees and edits of a node: its text, a judgment, an estimation level, a comment, and
the mark that shows whether it is a target and whether that target is done.
-/

namespace LoopSurvey

/-- A classification of a node. A judged value is never empty nor the name of `notYet`. -/
inductive Judgment
  | notYet
  | judged (value : String)
deriving DecidableEq, Repr

namespace Judgment

/-- The name of the open judgment. -/
def notYetName : String := "NotYet"

/-- The judgment with a given name; the empty name means an open one. -/
def ofName (name : String) : Judgment :=
  if name = "" ∨ name = notYetName then notYet else judged name

/-- The name of a judgment. -/
def name : Judgment → String
  | notYet => notYetName
  | judged value => value

/-- Whether the node has been judged. -/
def isCompleted : Judgment → Bool
  | notYet => false
  | judged _ => true

end Judgment

/-- The mark of a node: only targets show completion. -/
inductive Mark
  | plain
  | target
  | targetCompleted
deriving DecidableEq, Repr

namespace Mark

/-- The style class of the mark in label markup. -/
def cssClass : Mark → String
  | plain => "node"
  | target => "target_node"
  | targetCompleted => "target_node_completed"

/-- The mark after its node has been judged, or opened again. -/
def withCompletion (completed : Bool) : Mark → Mark
  | plain => plain
  | target | targetCompleted => if completed then targetCompleted else target

end Mark

/-- A level chosen out of `levels`. -/
structure Estimation where
  level : Nat
  levels : Nat
  level_lt : level < levels
deriving DecidableEq

namespace Estimation

/-- The estimation at a level, if the level is in range. -/
def at? (level levels : Nat) : Option Estimation :=
  if h : level < levels then some ⟨level, levels, h⟩ else none

/-- Whether a level is in range. -/
def contains (e : Estimation) (level : Nat) : Bool := level < e.levels

/-- The same levels with another one chosen, which has to be in range. -/
def choose (e : Estimation) (level : Nat) (h : e.contains level = true) : Estimation :=
  ⟨level, e.levels, of_decide_eq_true h⟩

/-- The level after the chosen one, which starts over after the last. -/
def next (e : Estimation) : Nat := (e.level + 1) % e.levels

theorem next_lt (e : Estimation) : e.next < e.levels :=
  Nat.mod_lt _ (Nat.lt_of_le_of_lt (Nat.zero_le _) e.level_lt)

end Estimation

/-- The label of a node. Nodes without a judgment selector have no judgment. -/
structure Label where
  text : String := ""
  judgment : Option Judgment := none
  estimation : Option Estimation := none
  comment : Option String := none
  mark : Mark := .plain
deriving DecidableEq

namespace Label

/-- Selects a judgment where there is a selector, and moves the completion mark. -/
def judge (l : Label) (j : Judgment) : Label :=
  { l with judgment := l.judgment.map fun _ => j, mark := l.mark.withCompletion j.isCompleted }

/-- Replaces the comment; an empty text removes it. -/
def setComment (l : Label) (text : String) : Label :=
  { l with comment := if text = "" then none else some text }

/-- Replaces the estimation. -/
def setEstimation (l : Label) (e : Estimation) : Label := { l with estimation := some e }

/-- Whether a completed judgment is selected. -/
def isJudged (l : Label) : Bool := l.judgment.any Judgment.isCompleted

end Label

end LoopSurvey
