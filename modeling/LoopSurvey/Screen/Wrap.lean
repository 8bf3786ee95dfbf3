import LoopSurvey.Text.Blank
/-!
# Wrapping lines

A line that is too long for its area is wrapped between words. Blanks are kept, but those that a
line has no room for at its end are dropped, and so is the blank at which a line is wrapped. A word
longer than a line is wrapped where the line ends.
-/

namespace LoopSurvey

/-- A line while it is wrapped. -/
structure Wrapping where
  /-- The lines that are finished. -/
  finished : List (List Char) := []
  /-- The line that is being filled. -/
  line : List Char := []
  /-- The blanks behind it. -/
  blanks : List Char := []
  /-- The word behind these. -/
  word : List Char := []
  /-- Whether the last character kept was that of a word. -/
  afterWord : Bool := false

namespace Wrapping

/-- Whether lines are wrapped at a character. -/
def isGap (c : Char) : Bool :=
  c.toNat = 0x200B || (Text.isBlank c && c.toNat ≠ 0xA0)

/-- Moves what waits to the line. -/
def settle (w : Wrapping) : Wrapping :=
  { w with line := w.line ++ w.blanks ++ w.word, blanks := [], word := [] }

/-- Finishes the line; the blanks that had room on it are dropped. -/
def finish (w : Wrapping) (width : Nat) : Wrapping :=
  { w with
    finished := w.finished ++ [w.line]
    line := []
    blanks := w.blanks.drop (width - w.line.length) }

/-- Adds a character to the blanks or to the word. -/
def add (w : Wrapping) (c : Char) : Wrapping :=
  if isGap c then { w with blanks := w.blanks ++ [c], afterWord := false }
  else { w with word := w.word ++ [c], afterWord := true }

/-- Takes the next character. -/
def take (width : Nat) (w : Wrapping) (c : Char) : Wrapping :=
  let waiting := w.blanks.length + w.word.length
  let settled :=
    if (w.afterWord && isGap c) || (w.line.isEmpty && width < waiting + 1) then w.settle else w
  if width ≤ settled.line.length + settled.blanks.length + settled.word.length then
    let next := settled.finish width
    if isGap c && next.blanks.isEmpty then next else next.add c
  else settled.add c

/-- The lines, once all characters have been taken. -/
def lines (w : Wrapping) : List (List Char) :=
  let last := w.settle.line
  if last.isEmpty && !w.finished.isEmpty then w.finished else w.finished ++ [last]

end Wrapping

/-- The lines that a line is wrapped to. -/
def wrapLine (width : Nat) (line : List Char) : List (List Char) :=
  if width = 0 then [[]] else (line.foldl (Wrapping.take width) {}).lines

end LoopSurvey
