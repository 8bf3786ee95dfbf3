import LoopSurvey.Outline.Basic
import LoopSurvey.Outline.Tables
import LoopSurvey.Record.Basic
/-!
# Loading an outline

The outline and the side tables of a forest of records. The tables come from the first record alone
and are looked at first; then the records become nodes, in pre-order, and each identifier may occur
once. The tables of a document are hashed by their keys, and the order in which these are met is not
known.
-/

namespace LoopSurvey

/-- Why a document is no outline. -/
inductive LoadError
  | json (fault : Json.Fault)
  | invalidId (value : String) (reason : IdError)
  | insertion (reason : InsertError)
deriving DecidableEq

/-- The wording of a loading error. -/
def LoadError.message : LoadError → String
  | .json .malformed => "malformed tree JSON: not a JSON text"
  | .json .misshapen => "malformed tree JSON: not an outline"
  | .invalidId value reason => "invalid node id '" ++ value ++ "': " ++ reason.message
  | .insertion reason => reason.message

/-- Levels of estimation that a node with metrics has. -/
def estimationLevels : Nat := 3

/-- The identifier that a scalar is. -/
def Scalar.toId (s : Scalar) : Except LoadError NodeId :=
  match NodeId.ofText s.toText with
  | .ok id => .ok id
  | .error reason => .error (.invalidId s.toText reason)

namespace Record

/-- The metrics of a record: there are none without a factor for the first level. -/
def metrics (r : Record) : Option Metrics :=
  r.factors.1.map fun first =>
    { first
      second := r.factors.2.1.getD 0
      third := r.factors.2.2.getD 0
      other := Json.sortMembers r.otherMetrics }

/-- The level chosen for a node with metrics, the first one if none is given or it is out of
range. -/
def estimation (r : Record) : Estimation :=
  ((r.level.bind Scalar.line?).bind (Estimation.at? · estimationLevels)).getD
    ⟨0, estimationLevels, by decide⟩

/-- The judgment given in a record. -/
def givenJudgment (r : Record) : Option Judgment := r.judgment.map Judgment.ofName

/-- The label of a record's node. Relevant and judged nodes have a judgment selector. -/
def label (r : Record) : Label where
  text := r.text
  judgment :=
    if r.relevant || r.judgment.isSome then some (r.givenJudgment.getD .notYet) else none
  estimation := r.metrics.map fun _ => r.estimation
  comment := (r.comment.or r.title).filter (· ≠ "")
  mark :=
    if r.target then Mark.target.withCompletion (r.givenJudgment.any Judgment.isCompleted)
    else .plain

/-- The annotation ranges as text: a text is kept, any other value is written compactly. -/
def rangesText (r : Record) : Option String :=
  r.ranges.map fun value =>
    match value with
    | .str s => s
    | value => value.compact

/-- The payload of a record's node. -/
def payload (r : Record) : Payload where
  path := r.path.map Scalar.toText
  startLine := r.startLine.bind Scalar.line?
  endLine := r.endLine.bind Scalar.line?
  index := r.index
  leftmost := r.leftmost
  relevant := r.relevant
  target := r.target
  callee := r.callee
  code := r.code
  unit := r.unit.map Scalar.toText
  fileId := r.fileId.map Scalar.toText
  ranges := r.rangesText
  links := r.links
  metrics := r.metrics

/-- The node of a record. -/
def toNode (r : Record) : Except LoadError Node := do
  let id ← r.id.toId
  pure {
    id
    kind := (r.kind.map NodeKind.ofName).getD .default
    payload := r.payload
    state := { opened := r.opened, selected := r.selected, checked := r.checked }
    label := r.label }

/-- The nodes registered for the lines of one file, from its keys in the order in which they are met.
Keys that do not begin with a number are passed over, and of keys with the same number the last one
met counts. -/
def lineEntries (entries : List (String × List Scalar)) :
    Except LoadError (List (Nat × List NodeId)) := do
  let numbered := entries.filterMap fun e => (leadingNumber? e.1).map (·, e.2)
  let known ← numbered.mapM fun e => do pure (e.1, ← e.2.mapM Scalar.toId)
  pure (Json.lastOfEach known)

/-- The side tables of a record. They are taken in the order in which the keys are met, and so the
first identifier met that is none is the one that is told. -/
def tables (r : Record) : Except LoadError Tables := do
  pure {
    lines := ← r.lines.mapM fun e => do pure (e.1, ← lineEntries e.2)
    callees := ← r.callees.mapM fun e => do pure (e.1, ← e.2.mapM Scalar.toId)
    targets := ← r.targets.mapM Scalar.toId
    lastViewed := ← r.lastViewed.mapM Scalar.toId }

/-- The nodes of the records, which must have identifiers other than the ones seen before; returns
them with the identifiers seen by then, last one first. -/
def nodesOf (seen : List NodeId) : Forest Record → Except LoadError (Forest Node × List NodeId)
  | .nil => .ok (.nil, seen)
  | .cons r children rest => do
    let n ← r.toNode
    if n.id ∈ seen then throw (.insertion (.duplicateId n.id))
    let (children, seen) ← nodesOf (n.id :: seen) children
    let (rest, seen) ← nodesOf seen rest
    pure (.cons n children rest, seen)

/-- The identifiers seen at the end are those seen before and those of the nodes, each once. -/
theorem nodesOf_seen {seen seen' : List NodeId} {t : Forest Record} {t' : Forest Node}
    (h : nodesOf seen t = .ok (t', seen')) (hs : seen.Nodup) :
    seen' = (t'.preorder.map Node.id).reverse ++ seen ∧ seen'.Nodup := by
  induction t generalizing seen seen' t' with
  | nil =>
    simp only [nodesOf, Except.ok.injEq, Prod.mk.injEq] at h
    obtain ⟨rfl, rfl⟩ := h
    exact ⟨by simp [Forest.preorder], hs⟩
  | cons r children rest ihc ihr =>
    simp only [nodesOf, bind, Except.bind] at h
    split at h
    · cases h
    · next n _ =>
      split at h
      · cases h
      · next hn =>
        split at h
        · cases h
        · next c hc =>
          split at h
          · cases h
          · next d hd =>
            simp only [pure, Except.pure, Except.ok.injEq, Prod.mk.injEq] at h
            obtain ⟨rfl, rfl⟩ := h
            have hm : (n.id :: seen).Nodup := by
              refine List.nodup_cons.2 ⟨fun hin => ?_, hs⟩
              simp [hin] at hn
            obtain ⟨ec, nc⟩ := ihc hc hm
            obtain ⟨ed, nd⟩ := ihr hd nc
            refine ⟨?_, nd⟩
            rw [ed, ec]
            simp [Forest.preorder, List.append_assoc]

/-- The outline of the records. -/
def outline (records : Forest Record) : Except LoadError Outline :=
  match h : nodesOf [] records with
  | .error e => .error e
  | .ok (forest, _) =>
    .ok ⟨forest, by
      obtain ⟨e, hn⟩ := nodesOf_seen h List.nodup_nil
      rw [e, List.append_nil] at hn
      exact (List.reverse_perm _).nodup_iff.1 hn⟩

/-- The side tables of the first record. -/
def firstTables : Forest Record → Except LoadError Tables
  | .nil => .ok {}
  | .cons first _ _ => first.tables

/-- The outline and the side tables of the records. -/
def load (records : Forest Record) : Except LoadError (Outline × Tables) := do
  let tables ← firstTables records
  pure (← outline records, tables)

/-- The tables of a document that are hashed by their keys. -/
inductive KeyTable
  | files
  | lines (path : String)
  | callees

/-- An order in which the keys of the hashed tables may be met: by their ranks. Every order of the keys
of a table is that of some ranks, and all that is known of the ranks is that a key has one. -/
structure KeyOrder where
  rank : KeyTable → String → Nat

/-- The order in which the document gives the keys. -/
def KeyOrder.written : KeyOrder where
  rank _ _ := 0

/-- The entries of a table in the order in which their keys are met. -/
def KeyOrder.arrange (order : KeyOrder) (table : KeyTable) (entries : List (String × α)) :
    List (String × α) :=
  entries.mergeSort fun e e' => order.rank table e.1 ≤ order.rank table e'.1

/-- The record with the keys of its tables in the order in which they are met. -/
def inOrder (order : KeyOrder) (r : Record) : Record :=
  { r with
    lines := (order.arrange .files r.lines).map fun file => (file.1, order.arrange (.lines file.1) file.2)
    callees := order.arrange .callees r.callees }

/-- The outline and the side tables of the text of a document, the keys met in the given order. -/
def loadText (order : KeyOrder) (text : String) : Except LoadError (Outline × Tables) :=
  match readDocument text with
  | .error fault => .error (.json fault)
  | .ok records => load (records.map (inOrder order))

end Record

end LoopSurvey
