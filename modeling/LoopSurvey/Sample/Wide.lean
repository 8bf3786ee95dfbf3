import LoopSurvey.Session.Basic
/-!
# Wide outlines

Outlines of any size for measurements: files next to each other, each with loops nested into one
another, of which every third is relevant.
-/

namespace LoopSurvey.Sample

/-- The path of a file. -/
def widePath (file : Nat) : String := s!"src/file{file}.f90"

/-- The node of a file. -/
def wideFile (file : Nat) : Node where
  id := NodeId.ofLetter 'f' (Nat.repr file) (by decide)
  kind := .file
  payload := { path := some (widePath file) }
  label := { text := widePath file }

/-- The node of a loop at a depth. -/
def wideLoop (file depth : Nat) : Node :=
  let code := s!"do i{depth} = 1, n  ! loop {depth} of file {file}"
  { id := NodeId.ofLetter 'f' s!"{file}l{depth}" (by decide)
    kind := .loop
    payload := {
      path := some (widePath file)
      startLine := some (depth * 3 + 1)
      endLine := some (depth * 3 + 3)
      relevant := depth % 3 = 0
      code := some code
      unit := some "main" }
    label := { text := code } }

/-- Adds loops below a node, each below the one before. -/
def addLoops (file : Nat) (parent : NodeId) (depth : Nat) : Nat → Outline → Outline
  | 0, o => o
  | count + 1, o =>
    let n := wideLoop file depth
    addLoops file n.id (depth + 1) count (o.insert (some parent) n).1

/-- A session over files with nested loops. -/
def wide (files loops : Nat) : Session where
  outline := (List.range files).foldl (fun o file =>
    addLoops file (wideFile file).id 0 loops (o.insert none (wideFile file)).1) .empty

end LoopSurvey.Sample
