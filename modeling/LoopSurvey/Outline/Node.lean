import LoopSurvey.Outline.Label
/-!
# Nodes

A node of an outline: what it stands for in the sources, its label, and how it is shown at present.
-/

namespace LoopSurvey

/-- What a node stands for. -/
inductive NodeKind
  | default | file | part | block | loop | branch | call | main | subroutine | function
  | mpi | omp | acc | ocl | dec | xlf | pp
  /-- A call whose callee is not known. -/
  | callNull
deriving DecidableEq, Repr

namespace NodeKind

/-- The kinds with a name of their own, with the glyph that stands for each on the screen. -/
def names : NodeKind → String × String
  | default => ("default", "·")
  | file => ("file", "F")
  | part => ("part", "P")
  | block => ("block", "B")
  | loop => ("loop", "D")
  | branch => ("branch", "?")
  | call => ("call", "C")
  | main => ("main", "M")
  | subroutine => ("subroutine", "S")
  | function => ("function", "f")
  | mpi => ("mpi", "m")
  | omp => ("omp", "o")
  | acc => ("acc", "a")
  | ocl => ("ocl", "!")
  | dec => ("dec", "i")
  | xlf => ("xlf", "x")
  | pp => ("pp", "#")
  | callNull => ("call*", "c")

/-- The name of a kind in records and in the text tree. -/
def name (k : NodeKind) : String := k.names.1

/-- The one-column sign of a kind. -/
def glyph (k : NodeKind) : String := k.names.2

/-- All kinds. -/
def all : List NodeKind :=
  [default, file, part, block, loop, branch, call, main, subroutine, function, mpi, omp, acc, ocl,
    dec, xlf, pp, callNull]

/-- The kind with a name; other names mean the default kind. -/
def ofName (name : String) : NodeKind :=
  (all.find? fun k => k.name = name).getD default

end NodeKind

/-- How a node is shown. -/
structure NodeState where
  opened : Bool := false
  selected : Bool := false
  checked : Bool := false
deriving DecidableEq, Repr

/-- Measures of a loop: a branch factor for each estimation level, and more by name. -/
structure Metrics where
  first : Float
  second : Float
  third : Float
  other : List (String × Float) := []

/-- The branch factors by level. -/
def Metrics.factors (m : Metrics) : List Float := [m.first, m.second, m.third]

/-- What the survey knows of a node. -/
structure Payload where
  path : Option String := none
  startLine : Option Nat := none
  endLine : Option Nat := none
  index : Option Nat := none
  leftmost : Option Nat := none
  relevant : Bool := false
  target : Bool := false
  callee : Option String := none
  code : Option String := none
  unit : Option String := none
  fileId : Option String := none
  ranges : Option String := none
  links : Option Nat := none
  metrics : Option Metrics := none

/-- A node, without its place in the outline. -/
structure Node where
  id : NodeId
  kind : NodeKind := .default
  payload : Payload := {}
  state : NodeState := {}
  label : Label := {}

end LoopSurvey
