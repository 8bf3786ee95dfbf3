import LoopSurvey.Screen.Area
/-!
# Canvases

A canvas holds one character for each column of each row of the screen. Texts are written into the
areas they belong to, and boxes are drawn around areas.
-/

namespace LoopSurvey

/-- The rows of the screen, from top to bottom. -/
structure Canvas where
  rows : List (List Char)
deriving DecidableEq, Repr

namespace Canvas

/-- An empty canvas. -/
def blank (width height : Nat) : Canvas where
  rows := List.replicate height (List.replicate width ' ')

/-- Characters written over others from a column on. What would go beyond the end is lost. -/
def overwrite (row : List Char) (x : Nat) (text : List Char) : List Char :=
  row.take x ++ text.take (row.length - x) ++ row.drop (x + text.length)

/-- Writes characters into a row, from a column on. -/
def write (c : Canvas) (x y : Nat) (text : List Char) : Canvas where
  rows := c.rows.modify y (overwrite · x text)

/-- Writes lines below each other into an area; what does not fit is cut off. -/
def writeLines (c : Canvas) (a : Area) (lines : List (List Char)) : Canvas :=
  (lines.take a.height).zipIdx.foldl (fun c line => c.write a.x (a.y + line.2) (line.1.take a.width)) c

/-- Clears an area. -/
def clear (c : Canvas) (a : Area) : Canvas :=
  c.writeLines a (List.replicate a.height (List.replicate a.width ' '))

/-- A horizontal edge of a box between its corners. -/
def edge (left right : Char) (width : Nat) : List Char :=
  match width with
  | 0 => []
  | 1 => [left]
  | n + 2 => left :: (List.replicate n '─' ++ [right])

/-- Draws a box around the inside of an area. The upper edge prevails where there is one row only. -/
def drawBox (c : Canvas) (a : Area) : Canvas :=
  let side := List.replicate (a.height - 2) ['│']
  let left : Area := { x := a.x, y := a.y + 1, width := 1, height := a.height - 2 }
  let right : Area := { left with x := a.x + (a.width - 1) }
  let upper : Area := { a with height := min a.height 1 }
  let lower : Area := { upper with y := a.y + (a.height - 1) }
  if a.width = 0 then c
  else
    (((c.writeLines left side).writeLines right side).writeLines lower [edge '└' '┘' a.width]).writeLines
      upper [edge '┌' '┐' a.width]

/-- Writes a title into the upper edge of a box, from its left corner on. -/
def writeTitle (c : Canvas) (a : Area) (title : List Char) : Canvas :=
  if a.height = 0 then c else c.write (a.x + 1) a.y (title.take (a.width - 2))

/-- Writes a text into the lower edge of a box, up to its right corner. The beginning of a text that
is too long is cut off. -/
def writeFoot (c : Canvas) (a : Area) (text : List Char) : Canvas :=
  if a.height = 0 then c
  else
    let shown := text.drop (text.length - (a.width - 2))
    c.write (a.x + (a.width - 1 - shown.length)) (a.y + (a.height - 1)) shown

/-- The rows as texts, without the blanks they end with. -/
def texts (c : Canvas) : List String :=
  c.rows.map fun row => String.ofList (row.reverse.dropWhile (· = ' ')).reverse

end Canvas

end LoopSurvey
