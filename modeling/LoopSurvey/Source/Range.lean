import LoopSurvey.Json.Reader
import LoopSurvey.Record.Scalar
/-!
# Annotation ranges

The annotated places of a node's source, as they come with the node: start and end, and where the
name found there is defined, if that is known.
-/

namespace LoopSurvey

/-- A position in a source text: lines are counted from 1. -/
structure Position where
  line : Nat
  column : Nat
deriving DecidableEq, Repr

/-- Where a name is defined: in the file of the range itself unless a path is given. -/
structure Definition where
  line : Nat
  path : Option String := none
  code : Option String := none
deriving DecidableEq, Repr

/-- An annotated range. -/
structure AnnotationRange where
  start : Position
  stop : Position
  definition : Option Definition := none
deriving DecidableEq, Repr

namespace AnnotationRange

open Json (Fault Reader)
open Json.Reader (complete once ignored optional unsigned string list)

/-- Reads a position. -/
def position : Reader Position :=
  complete (σ := Option Nat × Option Nat) ["line", "ch"]
    (fun key d =>
      match key with
      | "line" => once d.1 (unsigned maxCount) fun n => (some n, d.2)
      | "ch" => once d.2 (unsigned maxCount) fun n => (d.1, some n)
      | _ => .ok do ignored; pure d)
    (none, none)
    (fun d => do pure ⟨← d.1, ← d.2⟩)

/-- Reads a definition. -/
def definitionReader : Reader Definition :=
  complete (σ := Option Nat × Option (Option String) × Option (Option String)) ["line", "path", "code"]
    (fun key d =>
      match key with
      | "line" => once d.1 (unsigned maxCount) fun n => (some n, d.2)
      | "path" => once d.2.1 (optional string) fun s => (d.1, some s, d.2.2)
      | "code" => once d.2.2 (optional string) fun s => (d.1, d.2.1, some s)
      | _ => .ok do ignored; pure d)
    (none, none, none)
    (fun d => do pure ⟨← d.1, d.2.1.getD none, d.2.2.getD none⟩)

/-- Reads a range. -/
def reader : Reader AnnotationRange :=
  complete (σ := Option Position × Option Position × Option (Option Definition)) ["start", "end", "def"]
    (fun key d =>
      match key with
      | "start" => once d.1 position fun p => (some p, d.2)
      | "end" => once d.2.1 position fun p => (d.1, some p, d.2.2)
      | "def" => once d.2.2 (optional definitionReader) fun p => (d.1, d.2.1, some p)
      | _ => .ok do ignored; pure d)
    (none, none, none)
    (fun d => do pure ⟨← d.1, ← d.2.1, d.2.2.getD none⟩)

/-- Reads a list of ranges. -/
def parseAll (text : String) : Except Fault (List AnnotationRange) :=
  (list reader).run text

end AnnotationRange

end LoopSurvey
