import LoopSurvey.Json.Reader
import LoopSurvey.Outline.Forest
import LoopSurvey.Record.Scalar
/-!
# Records

An outline document is a forest of records, one for each node, as the survey server writes them. A
record takes the fields it knows from a JSON object, each at most once, and passes over the others;
or from an array of their values, in the order of the fields. Fields may be missing, all but the
identifier.
-/

namespace LoopSurvey

/-- A record without its children. -/
structure Record where
  id : Scalar
  text : String := ""
  kind : Option String := none
  opened : Bool := false
  selected : Bool := false
  checked : Bool := false
  title : Option String := none
  path : Option Scalar := none
  startLine : Option Scalar := none
  endLine : Option Scalar := none
  index : Option Nat := none
  leftmost : Option Nat := none
  relevant : Bool := false
  target : Bool := false
  callee : Option String := none
  code : Option String := none
  unit : Option Scalar := none
  fileId : Option Scalar := none
  ranges : Option Json := none
  links : Option Nat := none
  factors : Option Float × Option Float × Option Float := (none, none, none)
  otherMetrics : List (String × Float) := []
  judgment : Option String := none
  level : Option Scalar := none
  comment : Option String := none
  /-- The files with their lines, in the order in which the keys are met. -/
  lines : List (String × List (String × List Scalar)) := []
  /-- The callees, in the order in which the keys are met. -/
  callees : List (String × List Scalar) := []
  targets : List Scalar := []
  lastViewed : Option Scalar := none

namespace Record

/-! ## Fields -/

/-- The members of an object in which each known key occurs at most once, or of an array with the
values of the known keys, the first of them. -/
def fieldsOf? (known : List String) : Json → Option (List (String × Json))
  | .obj members =>
    if known.all fun key => members.countP (·.1 = key) ≤ 1 then some members else none
  | .arr values => if values.length ≤ known.length then some (known.zip values) else none
  | _ => none

/-- A field that may be missing. -/
def field? (members : List (String × Json)) (key : String) (missing : α)
    (decode : Json → Option α) : Option α :=
  match members.lookup key with
  | some value => decode value
  | none => some missing

/-- A field that may also be null. -/
def nullable (decode : Json → Option α) : Json → Option (Option α)
  | .null => some none
  | value => (decode value).map some

/-- A truth value. -/
def bool? : Json → Option Bool
  | .bool b => some b
  | _ => none

/-- A text. -/
def text? : Json → Option String
  | .str s => some s
  | _ => none

/-- A whole number from 0 to `max`. -/
def count? (max : Nat) : Json → Option Nat
  | .int n => if 0 ≤ n ∧ n ≤ max then some n.toNat else none
  | _ => none

/-- A number as a floating-point one. -/
def float? : Json → Option Float
  | .int n => some (Json.intToFloat n)
  | .float x => some x
  | _ => none

/-- A list of values of one kind. -/
def list? (decode : Json → Option α) : Json → Option (List α)
  | .arr items => items.mapM decode
  | _ => none

/-- A table of values of one kind. Every entry has to be of that kind; the last entry of a key
counts. -/
def table? (decode : Json → Option α) : Json → Option (List (String × α))
  | .obj members => do
    let entries ← members.mapM fun m => (decode m.2).map (m.1, ·)
    pure (Json.lastOfEach entries)
  | _ => none

/-- A list or table that may be missing or null, which both mean an empty one. -/
def listField? (members : List (String × Json)) (key : String)
    (decode : Json → Option (List α)) : Option (List α) :=
  (field? members key none (nullable decode)).map (·.getD [])

/-! ## Decoding -/

/-- The fields of a record, in the order in which an array gives them. -/
def fieldNames : List String :=
  ["id", "text", "type", "children", "state", "a_attr", "loc", "sl", "el", "idx", "lmi", "relevant",
    "target", "callee", "checked", "code", "pu", "fid", "aref_ranges", "nlinks", "bf0", "bf1",
    "bf2", "other_metrics", "judgment", "estimation_scheme", "comment", "node_tbl", "callees_tbl",
    "targets", "last_nid"]

/-- Whether a node is opened and selected. -/
def state? (value : Json) : Option (Bool × Bool) := do
  let members ← fieldsOf? ["opened", "selected"] value
  pure (← field? members "opened" false bool?, ← field? members "selected" false bool?)

/-- The title among the attributes of a node's link. -/
def title? (value : Json) : Option (Option String) := do
  let members ← fieldsOf? ["title"] value
  field? members "title" none (nullable text?)

/-- A record from its object or array, the children left aside. -/
def ofJson? (value : Json) : Option Record := do
  let ms ← fieldsOf? fieldNames value
  let scalar (key : String) : Option (Option Scalar) :=
    field? ms key none (nullable Scalar.ofJson?)
  let text (key : String) : Option (Option String) := field? ms key none (nullable text?)
  let bool (key : String) : Option Bool := field? ms key false bool?
  let count (key : String) (max : Nat) : Option (Option Nat) :=
    field? ms key none (nullable (count? max))
  let float (key : String) : Option (Option Float) := field? ms key none (nullable float?)
  let (opened, selected) ← field? ms "state" (false, false) state?
  pure {
    id := ← (ms.lookup "id").bind Scalar.ofJson?
    text := ← field? ms "text" "" text?
    kind := ← text "type"
    opened
    selected
    checked := ← bool "checked"
    title := ← field? ms "a_attr" none title?
    path := ← scalar "loc"
    startLine := ← scalar "sl"
    endLine := ← scalar "el"
    index := ← count "idx" Json.maxUnsigned
    leftmost := ← count "lmi" Json.maxUnsigned
    relevant := ← bool "relevant"
    target := ← bool "target"
    callee := ← text "callee"
    code := ← text "code"
    unit := ← scalar "pu"
    fileId := ← scalar "fid"
    ranges := ← field? ms "aref_ranges" none (nullable some)
    links := ← count "nlinks" maxCount
    factors := (← float "bf0", ← float "bf1", ← float "bf2")
    otherMetrics := ← listField? ms "other_metrics" (table? float?)
    judgment := ← text "judgment"
    level := ← scalar "estimation_scheme"
    comment := ← text "comment"
    lines := ← listField? ms "node_tbl" (table? (table? (list? Scalar.ofJson?)))
    callees := ← listField? ms "callees_tbl" (table? (list? Scalar.ofJson?))
    targets := ← listField? ms "targets" (list? Scalar.ofJson?)
    lastViewed := ← scalar "last_nid" }

mutual

/-- A forest of records from the items of an array. -/
def forestOf? : List Json → Option (Forest Record)
  | [] => some .nil
  | item :: rest => do
    let record ← ofJson? item
    let children ← childrenOf? item
    let rest ← forestOf? rest
    pure (.cons record children rest)

/-- The forest of the children of a record. -/
def childrenOf? : Json → Option (Forest Record)
  | .obj members => childrenAmong? members
  | .arr values => childrenAt? fieldNames values
  | _ => none

/-- The forest in the field of the children; empty if there is no such field. -/
def childrenAmong? : List (String × Json) → Option (Forest Record)
  | [] => some .nil
  | (key, value) :: rest =>
    if key = "children" then childForest? value else childrenAmong? rest

/-- The forest among the values of the fields with the given names. -/
def childrenAt? : List String → List Json → Option (Forest Record)
  | key :: keys, value :: rest =>
    if key = "children" then childForest? value else childrenAt? keys rest
  | _, _ => some .nil

/-- The forest that is the value of the field of the children. -/
def childForest? : Json → Option (Forest Record)
  | .arr items => forestOf? items
  | _ => none

end

/-- The records of a document: an array of them, or else a single one. -/
def documentOf? : Json → Option (Forest Record)
  | .arr items => forestOf? items <|> forestOf? [.arr items]
  | value => forestOf? [value]

/-- Reads a document. The whole value is read before its shape is looked at, and what follows it
only after that. -/
def readDocument (text : String) : Except Json.Fault (Forest Record) := do
  let (value, rest) ← Json.Reader.value Json.maxDepth text.toList
  match documentOf? value with
  | none => .error .misshapen
  | some records =>
    let _ ← Json.Reader.finish rest
    pure records

end Record

end LoopSurvey
