/-!
# Areas

Rectangles of the screen, in columns and rows that count from the upper left corner, and how they
are divided by percentages.
-/

namespace LoopSurvey

/-- A rectangle of the screen. -/
structure Area where
  x : Nat := 0
  y : Nat := 0
  width : Nat
  height : Nat
deriving DecidableEq, Repr

namespace Area

/-- What a border of one column and one row leaves. -/
def inner (a : Area) : Area where
  x := a.x + 1
  y := a.y + 1
  width := a.width - 2
  height := a.height - 2

/-- A share of a length in percent, to the nearest whole; a half goes up. -/
def share (percent length : Nat) : Nat := (2 * percent * length + 100) / 200

/-- The part above and the part below, where the upper one has a share of the height. -/
def splitRows (a : Area) (percent : Nat) : Area × Area :=
  let upper := share percent a.height
  ({ a with height := upper }, { a with y := a.y + upper, height := a.height - upper })

/-- The part in the middle with shares of the width and the height. The margins have whole
percentages. -/
def centred (a : Area) (widthPercent heightPercent : Nat) : Area :=
  let left := (100 - widthPercent) / 2
  let top := (100 - heightPercent) / 2
  let x := share left a.width
  let y := share top a.height
  { x := a.x + x
    y := a.y + y
    width := share (left + widthPercent) a.width - x
    height := share (top + heightPercent) a.height - y }

end Area

end LoopSurvey
