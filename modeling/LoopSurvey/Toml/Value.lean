import LoopSurvey.Toml.Scalar
/-!
# TOML tables

How the statements of a TOML document build up its tables. A table is defined once: by a header, by
dotted keys, or in line; what defined it decides how it may still grow.
-/

namespace LoopSurvey.Toml

/-- How a table came about. -/
inductive Origin
  /-- On the way to a table with a header of its own. -/
  | path
  /-- By its own header. -/
  | header
  /-- By dotted keys. -/
  | dotted
  /-- In line, between braces. -/
  | inline
deriving DecidableEq, Repr

/-- A TOML value. -/
inductive Value
  | string (text : String)
  | bare (value : Bare)
  | array (items : List Value)
  | table (origin : Origin) (entries : List (String × Value))
  /-- Tables with the same header in double brackets; the last one is still open. -/
  | tables (items : List (List (String × Value)))

/-- The entries of a table. -/
abbrev Entries := List (String × Value)

/-- Changes the value of a key, or gives it one; the change may be refused. -/
def change? (key : String) (f : Option Value → Option Value) : Entries → Option Entries
  | [] => (f none).map fun v => [(key, v)]
  | (k, v) :: rest =>
    if k = key then (f (some v)).map fun v => (k, v) :: rest
    else (change? key f rest).map ((k, v) :: ·)

/-- Changes the last table of a list. -/
def changeLast? (f : Entries → Option Entries) : List Entries → Option (List Entries)
  | [] => none
  | [es] => (f es).map ([·])
  | es :: rest => (changeLast? f rest).map (es :: ·)

/-- Gives a value to a key below the tables named by dotted keys. These are made where they are
missing; tables with a header of their own and in-line tables are closed to dotted keys. -/
def put? (key : String) (value : Value) : List String → Entries → Option Entries
  | [], entries =>
    change? key (fun old => match old with
      | none => some value
      | some _ => none) entries
  | name :: path, entries =>
    change? name (fun old => match old with
      | none => (put? key value path []).map (.table .dotted)
      | some (.table origin inner) =>
        if origin = .dotted ∨ (origin = .path ∧ path ≠ []) then
          (put? key value path inner).map (.table origin)
        else none
      | some _ => none) entries

/-- Makes the table of a header. A table that so far was only on the way to others may get its
header late. -/
def openTable? : List String → Entries → Option Entries
  | [], _ => none
  | [name], entries =>
    change? name (fun old => match old with
      | none => some (.table .header [])
      | some (.table .path inner) => some (.table .header inner)
      | some _ => none) entries
  | name :: path, entries =>
    change? name (fun old => match old with
      | none => (openTable? path []).map (.table .path)
      | some (.table origin inner) =>
        if origin = .inline then none else (openTable? path inner).map (.table origin)
      | some (.tables items) => (changeLast? (openTable? path) items).map .tables
      | some _ => none) entries

/-- Adds a table to those of a header in double brackets. -/
def openItem? : List String → Entries → Option Entries
  | [], _ => none
  | [name], entries =>
    change? name (fun old => match old with
      | none => some (.tables [[]])
      | some (.tables items) => some (.tables (items ++ [[]]))
      | some _ => none) entries
  | name :: path, entries =>
    change? name (fun old => match old with
      | none => (openItem? path []).map (.table .path)
      | some (.table origin inner) =>
        if origin = .inline then none else (openItem? path inner).map (.table origin)
      | some (.tables items) => (changeLast? (openItem? path) items).map .tables
      | some _ => none) entries

/-- Changes the entries of the table that a header has opened. -/
def within? (f : Entries → Option Entries) : List String → Entries → Option Entries
  | [], entries => f entries
  | name :: path, entries =>
    change? name (fun old => match old with
      | some (.table origin inner) => (within? f path inner).map (.table origin)
      | some (.tables items) => (changeLast? (within? f path) items).map .tables
      | _ => none) entries

/-- A statement of a document. -/
inductive Statement
  /-- A value for a key, below the tables of the dotted keys before it. -/
  | pair (path : List String) (key : String) (value : Value)
  /-- The header of a table. -/
  | table (path : List String)
  /-- The header of one of several tables. -/
  | item (path : List String)

/-- A document so far: its tables, and the header that its pairs belong to. -/
structure Document where
  root : Entries := []
  current : List String := []

/-- The document after one more statement. -/
def Document.add? (d : Document) : Statement → Option Document
  | .pair path key value =>
    (within? (put? key value path) d.current d.root).map fun root => { d with root }
  | .table path => (openTable? path d.root).map fun root => ⟨root, path⟩
  | .item path => (openItem? path d.root).map fun root => ⟨root, path⟩

/-- The tables that statements build up. -/
def build? (statements : List Statement) : Option Entries :=
  (statements.foldlM Document.add? {}).map Document.root

/-- The entries of an in-line table from its pairs. -/
def inlineEntries? (pairs : List (List String × String × Value)) : Option Entries :=
  pairs.foldlM (fun entries p => put? p.2.1 p.2.2 p.1 entries) []

end LoopSurvey.Toml
