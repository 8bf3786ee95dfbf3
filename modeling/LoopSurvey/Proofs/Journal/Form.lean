import LoopSurvey.Journal.Entry
import LoopSurvey.Proofs.Json.Reading
import LoopSurvey.Sample.Pair
/-!
# Forms of journal entries are read back

A form begins with the identity. The nodes follow as the text of a JSON array (`NodeData.ofText?`), which is not
there if there are none, and then the fields of the action (`Action.ofFields?`). No field of an action is called
`node_data`, so an entry is read back from its form (`Entry.ofForm?_form`).
-/

namespace LoopSurvey.Journal

open Json.Reader (Written WrittenMember written_quote written_repr written_true written_object written_array
  run_of_written)

/-! ## The object of a node -/

/-- A named JSON value, if there is one. -/
def memberFor (name : String) (value : Option Json) : List (String × Json) :=
  (value.map (name, ·)).toList

/-- The JSON value of a number. -/
def numberValue (n : Nat) : Json := .int n

/-- The JSON value of a flag that is left out unless it is set. -/
def flagValue (flag : Bool) : Option Json := if flag then some (.bool true) else none

/-- The members of the object that stands for the data of a node. -/
def NodeData.members (d : NodeData) : List (String × Json) :=
  ("nid", .str d.id) ::
    (memberFor "idx" (d.index.map numberValue) ++ memberFor "lmi" (d.leftmost.map numberValue)
      ++ memberFor "path" (d.path.map .str) ++ [("lnum", numberValue d.line)]
      ++ memberFor "relevant" (flagValue d.relevant) ++ memberFor "target" (flagValue d.target))

/-- The numbers in the data of a node have 64 bits. -/
structure NodeData.Fits (d : NodeData) : Prop where
  index : ∀ i ∈ d.index, i ≤ Json.maxUnsigned
  leftmost : ∀ i ∈ d.leftmost, i ≤ Json.maxUnsigned
  line : d.line ≤ Json.maxUnsigned

instance (d : NodeData) : Decidable d.Fits :=
  decidable_of_iff
    ((∀ i ∈ d.index, i ≤ Json.maxUnsigned) ∧ (∀ i ∈ d.leftmost, i ≤ Json.maxUnsigned) ∧ d.line ≤ Json.maxUnsigned)
    ⟨fun h => ⟨h.1, h.2.1, h.2.2⟩, fun h => ⟨h.index, h.leftmost, h.line⟩⟩

variable {depth : Nat}

theorem written_fieldFor (name : String) {text : Option String} {value : Option Json}
    (h : Option.Rel (Written depth) text value) :
    List.Forall₂ (WrittenMember depth) (fieldFor name text) (memberFor name value) := by
  cases h with
  | none => exact List.Forall₂.nil
  | some hw => exact List.Forall₂.cons ⟨rfl, hw⟩ List.Forall₂.nil

theorem written_number {n : Option Nat} (h : ∀ i ∈ n, i ≤ Json.maxUnsigned) :
    Option.Rel (Written depth) (n.map Nat.repr) (n.map numberValue) := by
  cases n with
  | none => exact Option.Rel.none
  | some i => exact Option.Rel.some (written_repr (h i rfl))

theorem written_text (s : Option String) : Option.Rel (Written depth) (s.map Json.quote) (s.map .str) := by
  cases s with
  | none => exact Option.Rel.none
  | some s => exact Option.Rel.some (written_quote s)

theorem written_flag (flag : Bool) : Option.Rel (Written depth) (flagText flag) (flagValue flag) := by
  cases flag with
  | false => exact Option.Rel.none
  | true => exact Option.Rel.some written_true

/-- The text of a node's data is that of an object with these members. -/
theorem NodeData.Fits.written {d : NodeData} (h : d.Fits) : Written (depth + 1) d.json (.obj d.members) := by
  apply written_object
  refine List.Forall₂.cons ⟨rfl, written_quote d.id⟩ ?_
  refine List.rel_append (List.rel_append (List.rel_append (List.rel_append (List.rel_append ?_ ?_) ?_) ?_) ?_) ?_
  · exact written_fieldFor "idx" (written_number h.index)
  · exact written_fieldFor "lmi" (written_number h.leftmost)
  · exact written_fieldFor "path" (written_text d.path)
  · exact List.Forall₂.cons ⟨rfl, written_repr h.line⟩ List.Forall₂.nil
  · exact written_fieldFor "relevant" (written_flag d.relevant)
  · exact written_fieldFor "target" (written_flag d.target)

/-! ## Reading the object of a node -/

/-- The text of a JSON string. -/
def text? : Json → Option String
  | .str s => some s
  | _ => none

/-- The number of a JSON number from zero on. -/
def natural? : Json → Option Nat
  | .int n => n.toNat?
  | _ => none

/-- A flag, which is unset if it is absent. -/
def flag? : Option Json → Option Bool
  | none => some false
  | some (.bool flag) => some flag
  | some _ => none

/-- The data in the members of an object. What is absent is none, or a flag that is unset. -/
def NodeData.ofMembers? (ms : List (String × Json)) : Option NodeData := do
  let id ← (ms.lookup "nid").bind text?
  let index ← (ms.lookup "idx").mapM natural?
  let leftmost ← (ms.lookup "lmi").mapM natural?
  let path ← (ms.lookup "path").mapM text?
  let line ← (ms.lookup "lnum").bind natural?
  let relevant ← flag? (ms.lookup "relevant")
  let target ← flag? (ms.lookup "target")
  pure { id, index, leftmost, path, line, relevant, target }

/-- The data in a JSON object, in which no key comes twice. -/
def NodeData.ofJson? : Json → Option NodeData
  | .obj ms => if (ms.map Prod.fst).Nodup then NodeData.ofMembers? ms else none
  | _ => none

theorem lookup_memberFor_self (name : String) (value : Option Json) : (memberFor name value).lookup name = value := by
  cases value with
  | none => rfl
  | some j => exact List.lookup_cons_self

theorem lookup_memberFor_of_ne {name key : String} (h : key ≠ name) (value : Option Json) :
    (memberFor name value).lookup key = none := by
  cases value with
  | none => rfl
  | some j => simp [memberFor, List.lookup_cons, beq_false_of_ne h]

theorem mapM_natural? (n : Option Nat) : (n.map numberValue).mapM natural? = some n := by
  cases n <;> rfl

theorem mapM_text? (s : Option String) : (s.map Json.str).mapM text? = some s := by
  cases s <;> rfl

theorem flag?_flagValue (flag : Bool) : flag? (flagValue flag) = some flag := by
  cases flag <;> rfl

/-- A key is looked up in its own place: all others in the object differ from it. -/
theorem lookup_members (d : NodeData) :
    d.members.lookup "nid" = some (.str d.id) ∧ d.members.lookup "idx" = d.index.map numberValue ∧
      d.members.lookup "lmi" = d.leftmost.map numberValue ∧ d.members.lookup "path" = d.path.map .str ∧
      d.members.lookup "lnum" = some (numberValue d.line) ∧ d.members.lookup "relevant" = flagValue d.relevant ∧
      d.members.lookup "target" = flagValue d.target := by
  refine ⟨rfl, ?_, ?_, ?_, ?_, ?_, ?_⟩ <;>
    simp [NodeData.members, List.lookup_cons, List.lookup_append, lookup_memberFor_self, lookup_memberFor_of_ne]

theorem ofMembers?_members (d : NodeData) : NodeData.ofMembers? d.members = some d := by
  obtain ⟨hid, hindex, hleftmost, hpath, hline, hrelevant, htarget⟩ := lookup_members d
  rw [NodeData.ofMembers?, hid, hindex, hleftmost, hpath, hline, hrelevant, htarget, mapM_natural?, mapM_natural?,
    mapM_text?, flag?_flagValue, flag?_flagValue]
  rfl

theorem keys_memberFor (name : String) (value : Option Json) :
    ((memberFor name value).map Prod.fst).Sublist [name] := by
  cases value with
  | none => exact List.nil_sublist _
  | some j => exact List.Sublist.refl _

theorem nodup_keys_members (d : NodeData) : (d.members.map Prod.fst).Nodup := by
  have hkeys : (d.members.map Prod.fst).Sublist
      ("nid" :: (["idx"] ++ ["lmi"] ++ ["path"] ++ ["lnum"] ++ ["relevant"] ++ ["target"])) := by
    simp only [NodeData.members, List.map_cons, List.map_append, List.map_nil]
    refine List.Sublist.cons_cons _ (.append (.append (.append (.append (.append ?_ ?_) ?_) ?_) ?_) ?_)
    · exact keys_memberFor _ _
    · exact keys_memberFor _ _
    · exact keys_memberFor _ _
    · exact List.Sublist.refl _
    · exact keys_memberFor _ _
    · exact keys_memberFor _ _
  exact hkeys.nodup (by decide)

/-- The data of a node is read back from its object. -/
theorem ofJson?_members (d : NodeData) : NodeData.ofJson? (.obj d.members) = some d := by
  rw [NodeData.ofJson?, if_pos (nodup_keys_members d), ofMembers?_members]

/-- The data of nodes in the text of a JSON array. -/
def NodeData.ofText? (text : String) : Option (List NodeData) :=
  match Json.Reader.run (Json.Reader.value Json.maxDepth) text with
  | .ok (.arr items) => items.mapM NodeData.ofJson?
  | _ => none

/-- The array has one object for each node, in order. -/
theorem run_arrayText {ds : List NodeData} (h : ∀ d ∈ ds, d.Fits) :
    Json.Reader.run (Json.Reader.value Json.maxDepth) (Json.arrayText (ds.map NodeData.json)) =
      .ok (.arr (ds.map fun d => .obj d.members)) := by
  apply run_of_written
  apply written_array
  rw [List.forall₂_map_left_iff, List.forall₂_map_right_iff, List.forall₂_same]
  exact fun d hd => (h d hd).written

theorem mapM_ofJson? (ds : List NodeData) : (ds.map fun d => Json.obj d.members).mapM NodeData.ofJson? = some ds := by
  induction ds with
  | nil => rfl
  | cons d ds ih =>
    rw [List.map_cons, List.mapM_cons, ofJson?_members, ih]
    rfl

theorem ofText?_arrayText {ds : List NodeData} (h : ∀ d ∈ ds, d.Fits) :
    NodeData.ofText? (Json.arrayText (ds.map NodeData.json)) = some ds := by
  rw [NodeData.ofText?, run_arrayText h]
  exact mapM_ofJson? ds

/-! ## Reading the fields of an action -/

/-- The truth value with a name. -/
def ofBoolText? (name : String) : Option Bool := [true, false].find? fun b => boolText b = name

/-- The search scope with a name. -/
def scopeOfName? (name : String) : Option SearchScope :=
  [SearchScope.all, .code, .comment].find? fun scope => scope.name = name

/-- The action with some form fields. -/
def Action.ofFields? : List (String × String) → Option Action
  | [("opened", value)] => (ofBoolText? value).map opened
  | [("checked", value)] => (ofBoolText? value).map checked
  | [("judgment", name)] => some (judgment name)
  | [("estimation_scheme", level)] => some (estimation (Nat.ofDigitChars 10 level.toList 0))
  | [("comment", text), ("has_comment", _)] => some (comment text)
  | [("expand_all", _)] => some expandAll
  | [("collapse_all", _)] => some collapseAll
  | [("expand_target_loops", _)] => some expandTargetLoops
  | [("expand_relevant_loops", _)] => some expandRelevantLoops
  | [("open_source", _)] => some openSource
  | [("search", keyword), ("datasrc", scope)] => (scopeOfName? scope).map (search keyword)
  | _ => none

theorem ofBoolText?_boolText (b : Bool) : ofBoolText? (boolText b) = some b := by
  cases b <;> decide

theorem scopeOfName?_name (scope : SearchScope) : scopeOfName? scope.name = some scope := by
  cases scope <;> decide

/-- An action is read back from its fields. -/
theorem ofFields?_fields (a : Action) : Action.ofFields? a.fields = some a := by
  cases a with
  | opened b => exact congrArg (Option.map Action.opened) (ofBoolText?_boolText b)
  | checked b => exact congrArg (Option.map Action.checked) (ofBoolText?_boolText b)
  | estimation level => exact congrArg (fun n => some (Action.estimation n)) (Decimal.ofDigitChars_repr level)
  | search keyword scope => exact congrArg (Option.map (Action.search keyword)) (scopeOfName?_name scope)
  | judgment | comment | expandAll | collapseAll | expandTargetLoops | expandRelevantLoops | openSource => rfl

/-- No action has a field with the name of the nodes. -/
theorem node_data_not_mem_fields (a : Action) : "node_data" ∉ a.fields.map Prod.fst := by
  cases a <;> simp [Action.fields]

/-! ## Reading forms -/

/-- The entry with a form. -/
def Entry.ofForm? : List (String × String) → Option Entry
  | ("user", user) :: ("proj", project) :: ("ver", version) :: ("node_data", text) :: fields => do
    let nodes ← NodeData.ofText? text
    let action ← Action.ofFields? fields
    pure ⟨⟨user, project, version⟩, nodes, action⟩
  | ("user", user) :: ("proj", project) :: ("ver", version) :: fields => do
    let action ← Action.ofFields? fields
    pure ⟨⟨user, project, version⟩, [], action⟩
  | _ => none

/-- The numbers in the data of all nodes of an entry have 64 bits. -/
def Entry.Fits (e : Entry) : Prop := ∀ d ∈ e.nodes, d.Fits

/-- Without the field of the nodes, the rest are the fields of the action. -/
theorem ofForm?_cons_fields (identity : Identity) {fields : List (String × String)}
    (h : "node_data" ∉ fields.map Prod.fst) :
    Entry.ofForm? (("user", identity.user) :: ("proj", identity.project) :: ("ver", identity.version) :: fields) =
      (Action.ofFields? fields).map (Entry.mk identity []) := by
  rw [Entry.ofForm?]
  · cases Action.ofFields? fields <;> rfl
  · rintro text later rfl
    exact h List.mem_cons_self

/-- An entry is read back from its form. -/
theorem ofForm?_form {e : Entry} (h : e.Fits) : Entry.ofForm? e.form = some e := by
  obtain ⟨identity, nodes, action⟩ := e
  cases nodes with
  | nil =>
    change Entry.ofForm? (_ :: _ :: _ :: action.fields) = _
    rw [ofForm?_cons_fields identity (node_data_not_mem_fields action), ofFields?_fields]
    rfl
  | cons d ds =>
    change (do
      let nodes ← NodeData.ofText? (Json.arrayText ((d :: ds).map NodeData.json))
      let action ← Action.ofFields? action.fields
      pure (Entry.mk identity nodes action)) = _
    rw [ofText?_arrayText h, ofFields?_fields]
    rfl

theorem form_injective {e f : Entry} (he : e.Fits) (hf : f.Fits) (h : e.form = f.form) : e = f := by
  have hread := ofForm?_form he
  rw [h, ofForm?_form hf] at hread
  exact (Option.some.inj hread).symm

/-- **A form determines its entry.** It begins with the identity. The nodes are there unless there are none, as a
JSON array from which their data are read, one object for each in order. The other fields determine the action, so
entries with one form are one. -/
theorem form_reads_back (identity : Identity) (nodes : List Node) (action : Action)
    (h : ∀ n ∈ nodes, (NodeData.ofNode n).Fits) :
    (∃ data : List (String × String),
      (Entry.mk identity (nodes.map NodeData.ofNode) action).form =
        [("user", identity.user), ("proj", identity.project), ("ver", identity.version)] ++ data ++ action.fields ∧
      (data = [] ↔ nodes = []) ∧
      (nodes ≠ [] → ∃ text items, data = [("node_data", text)] ∧
        Json.Reader.run (Json.Reader.value Json.maxDepth) text = .ok (.arr items) ∧
        items.map NodeData.ofJson? = nodes.map fun n => some (NodeData.ofNode n))) ∧
    "node_data" ∉ action.fields.map Prod.fst ∧
    Action.ofFields? action.fields = some action ∧
    Entry.ofForm? (Entry.mk identity (nodes.map NodeData.ofNode) action).form =
      some ⟨identity, nodes.map NodeData.ofNode, action⟩ ∧
    ∀ e f : Entry, e.Fits → f.Fits → e.form = f.form → e = f := by
  have hfits : ∀ d ∈ nodes.map NodeData.ofNode, d.Fits := by
    rw [List.forall_mem_map]
    exact h
  refine ⟨?_, node_data_not_mem_fields action, ofFields?_fields action, ofForm?_form hfits,
    fun e f => form_injective⟩
  cases nodes with
  | nil => exact ⟨[], rfl, ⟨fun _ => rfl, fun _ => rfl⟩, fun hne => absurd rfl hne⟩
  | cons n ns =>
    refine ⟨_, rfl, by simp, fun _ => ⟨_, _, rfl, run_arrayText hfits, ?_⟩⟩
    rw [List.map_map, List.map_map]
    exact List.map_congr_left fun n _ => ofJson?_members (NodeData.ofNode n)

/-- A node whose texts have a quote, a backslash, a control character and a letter beyond ASCII, and a loop. -/
theorem form_reads_back_odd :
    let odd : Node := {
      id := ⟨"\"é\\", by decide, by decide⟩
      payload := { path := some "\x01\n", index := some Json.maxUnsigned, target := true } }
    let nodes : List Node := [odd, Sample.loopNode Sample.firstId "DO i" true]
    (∀ n ∈ nodes, (NodeData.ofNode n).Fits) ∧
    ∃ text items,
      (Entry.mk {} (nodes.map NodeData.ofNode) .openSource).form =
        [("user", ""), ("proj", ""), ("ver", ""), ("node_data", text), ("open_source", "true")] ∧
      Json.Reader.run (Json.Reader.value Json.maxDepth) text = .ok (.arr items) ∧
      items.map NodeData.ofJson? = nodes.map fun n => some (NodeData.ofNode n) := by
  intro odd nodes
  have hfits : ∀ n ∈ nodes, (NodeData.ofNode n).Fits := by decide
  obtain ⟨⟨data, hform, -, hdata⟩, -⟩ := form_reads_back {} nodes .openSource hfits
  obtain ⟨text, items, rfl, hrun, hitems⟩ := hdata (List.cons_ne_nil _ _)
  exact ⟨hfits, text, items, hform, hrun, hitems⟩

end LoopSurvey.Journal
