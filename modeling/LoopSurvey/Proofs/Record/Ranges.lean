import LoopSurvey.Proofs.Record.Document
import LoopSurvey.Proofs.Source.Ranges
/-!
# Annotation ranges of a record

A record may give the ranges of its node as an array or as a text that holds the array. Both become the text of the
node's ranges, the array in its compact form and the text as it is, and from both the same ranges are read
(`Record.ranges_of_either`).
-/

namespace LoopSurvey

/-- The node with another text of its ranges. -/
def Node.withRanges (n : Node) (text : String) : Node := { n with payload := { n.payload with ranges := some text } }

namespace Record

open Json.Reader (ReadsBack Written run_of_written written_array written_null written_object written_quote)

/-! ## A member for the ranges -/

section Insertion

variable {before after : List (String × Json)} {v : Json}

theorem lookup_insert {key : String} (h : key ≠ "aref_ranges") :
    (before ++ ("aref_ranges", v) :: after).lookup key = (before ++ after).lookup key := by
  rw [List.lookup_append, List.lookup_append, List.lookup_cons, beq_eq_false_iff_ne.2 h]

theorem field?_insert {key : String} (h : key ≠ "aref_ranges") (missing : α) (decode : Json → Option α) :
    field? (before ++ ("aref_ranges", v) :: after) key missing decode =
      field? (before ++ after) key missing decode := by
  rw [field?, field?, lookup_insert h]

theorem listField?_insert {key : String} (h : key ≠ "aref_ranges") (decode : Json → Option (List α)) :
    listField? (before ++ ("aref_ranges", v) :: after) key decode = listField? (before ++ after) key decode := by
  rw [listField?, listField?, field?_insert h]

variable (habsent : "aref_ranges" ∉ (before ++ after).map Prod.fst)
include habsent

theorem field?_ranges (hv : v ≠ .null) :
    field? (before ++ ("aref_ranges", v) :: after) "aref_ranges" none (nullable some) =
      (field? (before ++ after) "aref_ranges" none (nullable some)).map fun _ => some v := by
  have hnone : ∀ ms : List (String × Json), "aref_ranges" ∉ ms.map Prod.fst → ms.lookup "aref_ranges" = none := by
    intro ms hms
    rw [List.lookup_eq_none_iff]
    intro m hm
    rw [bne_iff_ne]
    rintro he
    exact hms (he ▸ List.mem_map_of_mem hm)
  have hsome : nullable some v = some (some v) := by
    cases v <;> first | rfl | exact absurd rfl hv
  have hbefore := hnone before fun h => habsent (by rw [List.map_append, List.mem_append]; exact Or.inl h)
  rw [field?, field?, hnone _ habsent, List.lookup_append, hbefore, List.lookup_cons, beq_self_eq_true]
  exact hsome

theorem fieldsOf?_insert : fieldsOf? fieldNames (.obj (before ++ ("aref_ranges", v) :: after)) =
    (fieldsOf? fieldNames (.obj (before ++ after))).map fun _ => before ++ ("aref_ranges", v) :: after := by
  have hcount : ∀ key, (before ++ ("aref_ranges", v) :: after).countP (·.1 = key) ≤ 1 ↔
      (before ++ after).countP (·.1 = key) ≤ 1 := by
    intro key
    rw [List.perm_middle.countP_eq, List.countP_cons]
    by_cases h : key = "aref_ranges"
    · subst h
      have hzero : (before ++ after).countP (·.1 = "aref_ranges") = 0 := by
        rw [List.countP_eq_zero]
        intro m hm he
        exact habsent (of_decide_eq_true he ▸ List.mem_map_of_mem hm)
      simp [hzero]
    · simp [Ne.symm h]
  simp only [fieldsOf?, hcount]
  split <;> rfl

/-- A record with the value as its ranges. -/
theorem ofJson?_insert (hv : v ≠ .null) : ofJson? (.obj (before ++ ("aref_ranges", v) :: after)) =
    (ofJson? (.obj (before ++ after))).map fun r => { r with ranges := some v } := by
  have hfields := fieldsOf?_insert (v := v) habsent
  unfold ofJson?
  rw [hfields]
  cases hknown : fieldsOf? fieldNames (.obj (before ++ after)) with
  | none => rfl
  | some ms =>
    obtain rfl : before ++ after = ms := by
      rw [fieldsOf?] at hknown
      split at hknown
      · exact Option.some.inj hknown
      · cases hknown
    change (field? (before ++ ("aref_ranges", v) :: after) "state" (false, false) state?).bind _ =
      ((field? (before ++ after) "state" (false, false) state?).bind _).map _
    refine bind_of_eq (field?_insert (by decide) _ _) fun shown => ?_
    refine bind_of_eq (by rw [lookup_insert (by decide)]) fun id => ?_
    -- the other fields, in the order in which they are read
    repeat first
      | refine bind_of_eq (field?_insert (by decide) _ _) fun _ => ?_
      | refine bind_of_map (field?_ranges habsent hv) fun _ => ?_
      | refine bind_of_eq (listField?_insert (by decide) _) fun _ => ?_
    rfl

end Insertion

/-! ## Both deliveries -/

variable {ranges : List AnnotationRange} {before after : List (String × Json)} {r : Record} {n : Node}

theorem toNode_ranges {v : Json} {stored : String} (hr : r.toNode = .ok n)
    (hstored : ({ r with ranges := some v } : Record).rangesText = some stored) :
    ({ r with ranges := some v } : Record).toNode = .ok (n.withRanges stored) := by
  obtain ⟨id, hid, hn⟩ := bind_eq_ok.1 hr
  rw [pure_eq_ok] at hn
  have hpayload : ({ r with ranges := some v } : Record).payload = { r.payload with ranges := some stored } := by
    rw [← hstored]
    rfl
  refine bind_eq_ok.2 ⟨id, hid, pure_eq_ok.2 ?_⟩
  rw [hpayload, ← hn]
  rfl

/-- A record that was loaded has its node in the outline. -/
theorem mem_nodes_of_load {records : Forest Record} {o : Outline} {tables : Tables}
    (h : load records = .ok (o, tables)) (hr : r ∈ records.preorder) (hn : r.toNode = .ok n) : n ∈ o.nodes := by
  have hnodes := congrArg Forest.preorder (map_toNode_of_load h)
  rw [Forest.preorder_map, Forest.preorder_map] at hnodes
  obtain ⟨m, hm, hmn⟩ := List.mem_map.1 (hnodes ▸ List.mem_map_of_mem hr)
  rw [hn] at hmn
  exact Except.ok.inj hmn ▸ hm

/-- A value in the field of the ranges, that becomes the text `stored`, is all that tells the node from that of the
record without it. -/
theorem exists_given (v : Json) {stored : String} (hv : v ≠ .null)
    (habsent : "aref_ranges" ∉ (before ++ after).map Prod.fst)
    (hr : ofJson? (.obj (before ++ after)) = some r) (hn : r.toNode = .ok n)
    (hstored : ({ r with ranges := some v } : Record).rangesText = some stored) : ∃ given,
      ofJson? (.obj (before ++ ("aref_ranges", v) :: after)) = some given ∧
      given.toNode = .ok (n.withRanges stored) ∧
      ∀ records o tables, given ∈ records.preorder → load records = .ok (o, tables) →
        n.withRanges stored ∈ o.nodes := by
  have hnode := toNode_ranges hn hstored
  refine ⟨_, by rw [ofJson?_insert habsent hv, hr]; rfl, hnode, ?_⟩
  intro records o tables hmem hload
  exact mem_nodes_of_load hload hmem hnode

/-- **Both deliveries of annotation ranges agree.** Every list of ranges is encoded by a value that has a text. Take
any such value and text of it, and a record without ranges. With the value as its ranges, or with the text, the record
becomes the same node as without but for the text of its ranges, which is read as just these ranges; and this node is
in every outline the record is loaded into. -/
theorem ranges_of_either (hfits : ∀ x ∈ ranges, x.Fits)
    (habsent : "aref_ranges" ∉ (before ++ after).map Prod.fst)
    (hr : ofJson? (.obj (before ++ after)) = some r) (hn : r.toNode = .ok n) :
    (∃ j text, AnnotationRange.EncodesAll ranges j ∧ (Json.Reader.value Json.maxDepth).run text = .ok j) ∧
    ∀ j text, AnnotationRange.EncodesAll ranges j → (Json.Reader.value Json.maxDepth).run text = .ok j →
      ∀ v, v = j ∨ v = .str text → ∃ given stored,
        ofJson? (.obj (before ++ ("aref_ranges", v) :: after)) = some given ∧
        given.toNode = .ok (n.withRanges stored) ∧
        AnnotationRange.parseAll stored = .ok ranges ∧
        ∀ records o tables, given ∈ records.preorder → load records = .ok (o, tables) →
          n.withRanges stored ∈ o.nodes := by
  constructor
  · obtain ⟨j, hj⟩ := AnnotationRange.exists_encodesAll ranges
    obtain ⟨j', hwritten, hj'⟩ : ReadsBack Json.maxDepth (AnnotationRange.EncodesAll ranges) j :=
      AnnotationRange.readsBack_all hfits hj
    exact ⟨j', j.compact, hj', run_of_written hwritten⟩
  · rintro j text hj htext v (rfl | rfl)
    · have hparse := AnnotationRange.parseAll_compact hfits hj
      obtain ⟨items, rfl, -⟩ := hj
      obtain ⟨given, hgiven, hnode, hload⟩ := exists_given (.arr items) (by simp) habsent hr hn rfl
      exact ⟨given, _, hgiven, hnode, hparse, hload⟩
    · obtain ⟨given, hgiven, hnode, hload⟩ := exists_given (.str text) (by simp) habsent hr hn rfl
      exact ⟨given, text, hgiven, hnode, AnnotationRange.parseAll_of_run hfits hj htext, hload⟩

/-- A range that is defined in a file whose name has a quote. -/
def sampleRange : AnnotationRange where
  start := ⟨1, 2⟩
  stop := ⟨1, 9⟩
  definition := some { line := 4294967295, path := some "a\".f" }

/-- A value that encodes it. -/
def sampleValue : Json :=
  .arr [.obj [("end", .obj [("ch", .int 9), ("line", .int 1)]), ("start", .obj [("ch", .int 2), ("line", .int 1)]),
    ("def", .obj [("path", .str "a\".f"), ("line", .int 4294967295), ("code", .null)])]]

/-- A text of the value, which does not have the members in the order of their keys. -/
def sampleText : String :=
  Json.arrayText [Json.objectText [
    ("end", Json.objectText [("ch", Nat.repr 9), ("line", Nat.repr 1)]),
    ("start", Json.objectText [("ch", Nat.repr 2), ("line", Nat.repr 1)]),
    ("def", Json.objectText [("path", Json.quote "a\".f"), ("line", Nat.repr 4294967295), ("code", "null")])]]

theorem sampleRange_fits : ∀ x ∈ [sampleRange], x.Fits := by
  rw [List.forall_mem_singleton]
  exact ⟨⟨by decide, by decide⟩, ⟨by decide, by decide⟩, by simp [sampleRange, maxCount]⟩

theorem encodesAll_sampleValue : AnnotationRange.EncodesAll [sampleRange] sampleValue := by
  have hdefinition : Definition.Encodes { line := 4294967295, path := some "a\".f" }
      (.obj [("path", .str "a\".f"), ("line", .int 4294967295), ("code", .null)]) :=
    ⟨by decide, by simpa using ⟨.path, .line, .code⟩, by decide⟩
  refine ⟨_, rfl, .cons ⟨by decide, ?_, by decide⟩ .nil⟩
  rw [List.forall_mem_cons, List.forall_mem_cons, List.forall_mem_singleton]
  exact ⟨.stop (Position.encodes _), .start (Position.encodes _), .definition rfl hdefinition⟩

theorem run_sampleText : (Json.Reader.value Json.maxDepth).run sampleText = .ok sampleValue := by
  have hposition : ∀ {line column : Nat}, line ≤ maxCount → column ≤ maxCount →
      Written 125 (Json.objectText [("ch", Nat.repr column), ("line", Nat.repr line)])
        (.obj [("ch", .int column), ("line", .int line)]) := fun hline hcolumn =>
    written_object (.cons ⟨rfl, written_count hcolumn⟩ (.cons ⟨rfl, written_count hline⟩ .nil))
  have hdefinition : Written 125
      (Json.objectText [("path", Json.quote "a\".f"), ("line", Nat.repr 4294967295), ("code", "null")])
      (.obj [("path", .str "a\".f"), ("line", .int 4294967295), ("code", .null)]) :=
    written_object (.cons ⟨rfl, written_quote _⟩ (.cons ⟨rfl, written_count (by decide)⟩
      (.cons ⟨rfl, written_null⟩ .nil)))
  exact run_of_written (written_array (.cons (written_object (.cons ⟨rfl, hposition (by decide) (by decide)⟩
    (.cons ⟨rfl, hposition (by decide) (by decide)⟩ (.cons ⟨rfl, hdefinition⟩ .nil)))) .nil))

theorem ranges_of_either_sample :
    (∀ x ∈ [sampleRange], x.Fits) ∧ AnnotationRange.EncodesAll [sampleRange] sampleValue ∧
    (Json.Reader.value Json.maxDepth).run sampleText = .ok sampleValue ∧
    ∃ r n, ofJson? (.obj ([("id", .str "a")] ++ [("text", .str "call f")])) = some r ∧ r.toNode = .ok n ∧
    ∀ v, v = sampleValue ∨ v = .str sampleText → ∃ given stored,
      ofJson? (.obj ([("id", .str "a")] ++ ("aref_ranges", v) :: [("text", .str "call f")])) = some given ∧
      given.toNode = .ok (n.withRanges stored) ∧
      AnnotationRange.parseAll stored = .ok [sampleRange] ∧
      ∀ records o tables, given ∈ records.preorder → load records = .ok (o, tables) →
        n.withRanges stored ∈ o.nodes := by
  refine ⟨sampleRange_fits, encodesAll_sampleValue, run_sampleText, _, _, rfl, rfl, ?_⟩
  exact (ranges_of_either sampleRange_fits (by decide) rfl rfl).2 sampleValue sampleText encodesAll_sampleValue
    run_sampleText

end Record

end LoopSurvey
