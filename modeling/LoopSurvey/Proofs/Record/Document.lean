import LoopSurvey.Proofs.Json.Reading
import LoopSurvey.Proofs.Record.KeyOrder
/-!
# Documents in numbers and in texts

Where a record has a scalar, a document may give a whole number or its decimal text. Spelling out the scalars of a
document (`Record.spellDocument`) spells out those of the records it is read as
(`Record.documentOf?_spellDocument`), and these load as before. So texts whose documents are the same once they
are spelled out load to the same outline and tables, or fail with the same error, in whatever order their keys are met
(`Record.loadText_respelled`).
-/

namespace LoopSurvey

/-! ## Spelling out parts of a value -/

namespace Json

/-- The value, spelled out if it is a whole number of 64 signed bits. -/
def spellOut : Json → Json
  | .int n => if -9223372036854775808 ≤ n ∧ n ≤ 9223372036854775807 then .str (toString n) else .int n
  | value => value

/-- Changes the items of an array. -/
def mapItems (f : Json → Json) : Json → Json
  | .arr items => .arr (items.map f)
  | value => value

/-- Changes the values of an object. -/
def mapValues (f : Json → Json) : Json → Json
  | .obj members => .obj (Record.mapTable f members)
  | value => value

theorem spellOut_eq_null_iff (value : Json) : value.spellOut = .null ↔ value = .null := by
  cases value with
  | int n =>
    rw [spellOut]
    split <;> simp
  | _ => simp [spellOut]

theorem mapItems_eq_null_iff (f : Json → Json) (value : Json) : value.mapItems f = .null ↔ value = .null := by
  cases value <;> simp [mapItems]

theorem mapValues_eq_null_iff (f : Json → Json) (value : Json) : value.mapValues f = .null ↔ value = .null := by
  cases value <;> simp [mapValues]

end Json

theorem Scalar.ofJson?_spellOut (value : Json) :
    Scalar.ofJson? value.spellOut = (Scalar.ofJson? value).map Scalar.spellOut := by
  cases value with
  | int n =>
    by_cases h : -9223372036854775808 ≤ n ∧ n ≤ 9223372036854775807
    · simp only [Json.spellOut, Scalar.ofJson?, if_pos h]
      rfl
    · simp only [Json.spellOut, Scalar.ofJson?, if_neg h]
      rfl
  | _ => rfl

namespace Record

/-- The fields that are scalars. -/
def scalarNames : List String := ["id", "loc", "sl", "el", "pu", "fid", "estimation_scheme", "last_nid"]

/-- The value of a field other than the children, with the scalars in it spelled out. -/
def spellField (key : String) (value : Json) : Json :=
  if key ∈ scalarNames then value.spellOut
  else if key = "targets" then value.mapItems Json.spellOut
  else if key = "callees_tbl" then value.mapValues (Json.mapItems Json.spellOut)
  else if key = "node_tbl" then value.mapValues (Json.mapValues (Json.mapItems Json.spellOut))
  else value

mutual

/-- The items of an array of records, spelled out. -/
def spellItems : List Json → List Json
  | [] => []
  | item :: rest => spellObject item :: spellItems rest

/-- The object or array of a record, its children included, spelled out. -/
def spellObject : Json → Json
  | .obj members => .obj (spellMembers members)
  | .arr values => .arr (spellValues fieldNames values)
  | value => value

/-- The members of a record, spelled out. -/
def spellMembers : List (String × Json) → List (String × Json)
  | [] => []
  | (key, value) :: rest =>
    (key, if key = "children" then spellChildren value else spellField key value) :: spellMembers rest

/-- The values of the fields with the given names, spelled out. -/
def spellValues : List String → List Json → List Json
  | key :: keys, value :: rest =>
    (if key = "children" then spellChildren value else spellField key value) :: spellValues keys rest
  | _, rest => rest

/-- The children of a record, spelled out. -/
def spellChildren : Json → Json
  | .arr items => .arr (spellItems items)
  | value => value

end

/-- Whether an array is a single record: it begins with a scalar, as no record does. -/
def isSingle (items : List Json) : Bool := (items.head?.bind Scalar.ofJson?).isSome

/-- A document in which every scalar of a record that is a whole number is spelled out. -/
def spellDocument : Json → Json
  | .arr items => if isSingle items then spellObject (.arr items) else .arr (spellItems items)
  | value => spellObject value

/-! ## Lists and tables -/

theorem mapM_map_of {d : β → Option γ} {f : α → β} {d' : α → Option δ} {g : δ → γ}
    (h : ∀ a, d (f a) = (d' a).map g) (l : List α) : (l.map f).mapM d = (l.mapM d').map (List.map g) := by
  induction l with
  | nil => rfl
  | cons a l ih =>
    rw [List.map_cons, List.mapM_cons, List.mapM_cons, ih, h]
    cases d' a <;> cases l.mapM d' <;> rfl

theorem lastOfEach_mapTable (f : α → β) (table : List (String × α)) :
    Json.lastOfEach (mapTable f table) = mapTable f (Json.lastOfEach table) := by
  induction table with
  | nil => rfl
  | cons e table ih =>
    have hany : (mapTable f table).any (·.1 = e.1) = table.any (·.1 = e.1) := by
      rw [mapTable, List.any_map]
      rfl
    have hcons : mapTable f (e :: table) = (e.1, f e.2) :: mapTable f table := rfl
    rw [hcons, Json.lastOfEach, Json.lastOfEach, hany, ih]
    split <;> rfl

section Decode

variable {d : Json → Option α} {f : Json → Json} {g : α → α} (h : ∀ v, d (f v) = (d v).map g)
include h

theorem list?_mapItems (v : Json) : list? d (v.mapItems f) = (list? d v).map (List.map g) := by
  cases v with
  | arr items => exact mapM_map_of h items
  | _ => rfl

theorem table?_mapValues (v : Json) : table? d (v.mapValues f) = (table? d v).map (mapTable g) := by
  cases v with
  | obj members =>
    have hentries : (mapTable f members).mapM (fun m => (d m.2).map (m.1, ·)) =
        (members.mapM fun m => (d m.2).map (m.1, ·)).map (mapTable g) :=
      mapM_map_of (fun m => by simp [h, Option.map_map, Function.comp_def]) members
    simp only [Json.mapValues, table?, hentries]
    cases members.mapM fun m => (d m.2).map (m.1, ·) with
    | none => rfl
    | some entries => exact congrArg some (lastOfEach_mapTable g entries)
  | _ => rfl

theorem nullable_map (hnull : ∀ v, f v = .null ↔ v = .null) (v : Json) :
    nullable d (f v) = (nullable d v).map (Option.map g) := by
  have hvalue : ∀ v, v ≠ .null → nullable d v = (d v).map some := by
    intro v hv
    cases v <;> first | rfl | exact absurd rfl hv
  by_cases hv : v = .null
  · rw [(hnull v).2 hv, hv]
    rfl
  · rw [hvalue _ (fun hf => hv ((hnull v).1 hf)), hvalue v hv, h, Option.map_map, Option.map_map]
    rfl

end Decode

theorem list?_spellOut (v : Json) :
    list? Scalar.ofJson? (v.mapItems Json.spellOut) = (list? Scalar.ofJson? v).map spellOutAll :=
  list?_mapItems Scalar.ofJson?_spellOut v

/-! ## Fields -/

/-- The value of a field, with the scalars in it spelled out. -/
def spellValue (key : String) (value : Json) : Json :=
  if key = "children" then spellChildren value else spellField key value

/-- The fields with scalars in them. -/
def spelledNames : List String := ["children", "targets", "callees_tbl", "node_tbl"] ++ scalarNames

theorem spellMembers_eq (members : List (String × Json)) :
    spellMembers members = members.map fun m => (m.1, spellValue m.1 m.2) := by
  induction members with
  | nil => rfl
  | cons m members ih =>
    obtain ⟨key, value⟩ := m
    rw [spellMembers, ih]
    rfl

theorem spellValue_of_not_mem {key : String} (h : key ∉ spelledNames) (value : Json) :
    spellValue key value = value := by
  simp only [spelledNames, List.cons_append, List.nil_append, List.mem_cons, not_or] at h
  obtain ⟨hchildren, htargets, hcallees, hlines, hscalar⟩ := h
  rw [spellValue, if_neg hchildren, spellField, if_neg (by simpa using hscalar), if_neg htargets,
    if_neg hcallees, if_neg hlines]

theorem spellValue_of_mem {key : String} (h : key ∈ scalarNames) (value : Json) :
    spellValue key value = value.spellOut := by
  have hchildren : key ≠ "children" := by
    rintro rfl
    exact absurd h (by decide)
  rw [spellValue, if_neg hchildren, spellField, if_pos h]

theorem length_spellValues (keys : List String) (values : List Json) :
    (spellValues keys values).length = values.length := by
  induction values generalizing keys with
  | nil => cases keys <;> rfl
  | cons value values ih =>
    cases keys with
    | nil => rfl
    | cons key keys => rw [spellValues, List.length_cons, List.length_cons, ih]

theorem zip_spellValues (keys : List String) (values : List Json) :
    keys.zip (spellValues keys values) = spellMembers (keys.zip values) := by
  induction keys generalizing values with
  | nil => rfl
  | cons key keys ih =>
    cases values with
    | nil => rfl
    | cons value values => rw [spellValues, List.zip_cons_cons, List.zip_cons_cons, spellMembers, ih]

/-- A known key stays as often as it is. -/
theorem fieldsOf?_spellObject (value : Json) :
    fieldsOf? fieldNames (spellObject value) = (fieldsOf? fieldNames value).map spellMembers := by
  cases value with
  | obj ms =>
    have hkeys : ∀ key, (spellMembers ms).countP (·.1 = key) = ms.countP (·.1 = key) := fun key => by
      rw [spellMembers_eq, List.countP_map]
      rfl
    simp only [spellObject, fieldsOf?, hkeys]
    split <;> rfl
  | arr values =>
    rw [spellObject, fieldsOf?, fieldsOf?, length_spellValues, zip_spellValues]
    split <;> rfl
  | _ => rfl

section Fields

variable (ms : List (String × Json))

theorem lookup_spellMembers (key : String) :
    (spellMembers ms).lookup key = (ms.lookup key).map (spellValue key) := by
  rw [spellMembers_eq]
  exact lookup_map_snd spellValue ms key

theorem lookup_id_spellMembers : ((spellMembers ms).lookup "id").bind Scalar.ofJson? =
    ((ms.lookup "id").bind Scalar.ofJson?).map Scalar.spellOut := by
  rw [lookup_spellMembers]
  cases ms.lookup "id" with
  | none => rfl
  | some value => exact Scalar.ofJson?_spellOut value

/-- A field is read as before but for a change, if its value is. -/
theorem field?_spellMembers {key : String} {d : Json → Option α} {g : α → α} {missing : α}
    (hmissing : g missing = missing) (h : ∀ v, d (spellValue key v) = (d v).map g) :
    field? (spellMembers ms) key missing d = (field? ms key missing d).map g := by
  rw [field?, field?, lookup_spellMembers]
  cases ms.lookup key with
  | none => exact congrArg some hmissing.symm
  | some value => exact h value

/-- Fields without scalars are read as before. -/
theorem field?_of_not_mem {key : String} (h : key ∉ spelledNames) (missing : α) (d : Json → Option α) :
    field? (spellMembers ms) key missing d = field? ms key missing d := by
  rw [field?, field?, lookup_spellMembers]
  cases ms.lookup key with
  | none => rfl
  | some value => exact congrArg d (spellValue_of_not_mem h value)

theorem listField?_of_not_mem {key : String} (h : key ∉ spelledNames) (d : Json → Option (List α)) :
    listField? (spellMembers ms) key d = listField? ms key d := by
  rw [listField?, field?_of_not_mem ms h, listField?]

theorem field?_of_mem {key : String} (h : key ∈ scalarNames) :
    field? (spellMembers ms) key none (nullable Scalar.ofJson?) =
      (field? ms key none (nullable Scalar.ofJson?)).map (Option.map Scalar.spellOut) :=
  field?_spellMembers ms rfl fun v => by
    rw [spellValue_of_mem h, nullable_map Scalar.ofJson?_spellOut Json.spellOut_eq_null_iff]

theorem listField?_spellMembers {key : String} {d : Json → Option (List α)} {g : List α → List α} (hnil : g [] = [])
    (h : ∀ v, nullable d (spellValue key v) = (nullable d v).map (Option.map g)) :
    listField? (spellMembers ms) key d = (listField? ms key d).map g := by
  rw [listField?, listField?, field?_spellMembers ms rfl h, Option.map_map, Option.map_map]
  refine Option.map_congr fun l _ => ?_
  cases l with
  | none => exact hnil.symm
  | some l => rfl

theorem listField?_targets : listField? (spellMembers ms) "targets" (list? Scalar.ofJson?) =
    (listField? ms "targets" (list? Scalar.ofJson?)).map spellOutAll :=
  listField?_spellMembers ms rfl (nullable_map list?_spellOut (Json.mapItems_eq_null_iff _))

theorem listField?_callees : listField? (spellMembers ms) "callees_tbl" (table? (list? Scalar.ofJson?)) =
    (listField? ms "callees_tbl" (table? (list? Scalar.ofJson?))).map (mapTable spellOutAll) :=
  listField?_spellMembers ms rfl
    (nullable_map (table?_mapValues list?_spellOut) (Json.mapValues_eq_null_iff _))

theorem listField?_lines : listField? (spellMembers ms) "node_tbl" (table? (table? (list? Scalar.ofJson?))) =
    (listField? ms "node_tbl" (table? (table? (list? Scalar.ofJson?)))).map (mapTable (mapTable spellOutAll)) :=
  listField?_spellMembers ms rfl
    (nullable_map (table?_mapValues (table?_mapValues list?_spellOut)) (Json.mapValues_eq_null_iff _))

end Fields

/-- A step that is made as before does not stop what follows from being changed. -/
theorem bind_of_eq {x x' : Option α} {k : α → Option γ} {k' : α → Option δ} {g : γ → δ} (hx : x' = x)
    (hk : ∀ a, k' a = (k a).map g) : x'.bind k' = (x.bind k).map g := by
  subst hx
  cases x' with
  | none => rfl
  | some a => exact hk a

/-- A step with a changed result, if what follows makes up for it. -/
theorem bind_of_map {x : Option α} {x' : Option β} {f : α → β} {k : α → Option γ} {k' : β → Option δ} {g : γ → δ}
    (hx : x' = x.map f) (hk : ∀ a, k' (f a) = (k a).map g) : x'.bind k' = (x.bind k).map g := by
  subst hx
  cases x with
  | none => rfl
  | some a => exact hk a

/-- A spelled out object is the spelled out record. -/
theorem ofJson?_spellObject (value : Json) : ofJson? (spellObject value) = (ofJson? value).map spellOut := by
  refine bind_of_map (fieldsOf?_spellObject value) fun ms => ?_
  refine bind_of_eq (field?_of_not_mem ms (by decide) _ _) fun ⟨opened, selected⟩ => ?_
  refine bind_of_map (lookup_id_spellMembers ms) fun id => ?_
  -- the other fields, in the order in which they are read
  repeat first
    | refine bind_of_eq (field?_of_not_mem ms (by decide) _ _) fun _ => ?_
    | refine bind_of_map (field?_of_mem ms (by decide)) fun _ => ?_
    | refine bind_of_eq (listField?_of_not_mem ms (by decide) _) fun _ => ?_
    | refine bind_of_map (listField?_lines ms) fun _ => ?_
    | refine bind_of_map (listField?_callees ms) fun _ => ?_
    | refine bind_of_map (listField?_targets ms) fun _ => ?_
  rfl

/-! ## Documents -/

mutual

theorem forestOf?_spellItems : ∀ items : List Json,
    forestOf? (spellItems items) = (forestOf? items).map (Forest.map spellOut)
  | [] => rfl
  | item :: rest => by
    rw [spellItems, forestOf?, forestOf?, ofJson?_spellObject, childrenOf?_spellObject item,
      forestOf?_spellItems rest]
    cases ofJson? item <;> cases childrenOf? item <;> cases forestOf? rest <;> rfl

theorem childrenOf?_spellObject : ∀ value : Json,
    childrenOf? (spellObject value) = (childrenOf? value).map (Forest.map spellOut)
  | .obj members => childrenAmong?_spellMembers members
  | .arr values => childrenAt?_spellValues fieldNames values
  | .null | .bool _ | .int _ | .float _ | .str _ => rfl

theorem childrenAmong?_spellMembers : ∀ members : List (String × Json),
    childrenAmong? (spellMembers members) = (childrenAmong? members).map (Forest.map spellOut)
  | [] => rfl
  | (key, value) :: rest => by
    rw [spellMembers, childrenAmong?, childrenAmong?]
    by_cases hkey : key = "children"
    · rw [if_pos hkey, if_pos hkey, if_pos hkey]
      exact childForest?_spellChildren value
    · rw [if_neg hkey, if_neg hkey]
      exact childrenAmong?_spellMembers rest

theorem childrenAt?_spellValues : ∀ (keys : List String) (values : List Json),
    childrenAt? keys (spellValues keys values) = (childrenAt? keys values).map (Forest.map spellOut)
  | key :: keys, value :: rest => by
    rw [spellValues, childrenAt?, childrenAt?]
    by_cases hkey : key = "children"
    · rw [if_pos hkey, if_pos hkey, if_pos hkey]
      exact childForest?_spellChildren value
    · rw [if_neg hkey, if_neg hkey]
      exact childrenAt?_spellValues keys rest
  | [], [] | [], _ :: _ | _ :: _, [] => rfl

theorem childForest?_spellChildren : ∀ value : Json,
    childForest? (spellChildren value) = (childForest? value).map (Forest.map spellOut)
  | .arr items => forestOf?_spellItems items
  | .null | .bool _ | .int _ | .float _ | .str _ | .obj _ => rfl

end

theorem isSingle_spellItems (items : List Json) : isSingle (spellItems items) = isSingle items := by
  cases items with
  | nil => rfl
  | cons item rest => cases item <;> rfl

theorem isSingle_spellValues (values : List Json) : isSingle (spellValues fieldNames values) = isSingle values := by
  cases values with
  | nil => rfl
  | cons value rest =>
    change (Scalar.ofJson? value.spellOut).isSome = (Scalar.ofJson? value).isSome
    rw [Scalar.ofJson?_spellOut, Option.isSome_map]

/-- There is no record without an identifier. -/
theorem ofJson?_eq_none {value : Json}
    (h : ∀ ms, fieldsOf? fieldNames value = some ms → (ms.lookup "id").bind Scalar.ofJson? = none) :
    ofJson? value = none := by
  unfold ofJson?
  cases hms : fieldsOf? fieldNames value with
  | none => rfl
  | some ms =>
    change (field? ms "state" (false, false) state?).bind _ = none
    cases field? ms "state" (false, false) state? with
    | none => rfl
    | some state =>
      change ((ms.lookup "id").bind Scalar.ofJson?).bind _ = none
      rw [h ms hms]
      rfl

/-- An array that begins with a scalar is read as a single record, and any other one as an array of records. -/
theorem documentOf?_arr (items : List Json) :
    documentOf? (.arr items) = if isSingle items then forestOf? [.arr items] else forestOf? items := by
  cases items with
  | nil => rfl
  | cons item rest =>
    by_cases hsingle : isSingle (item :: rest) = true
    · -- the first item is no record, so that the array is none of records
      have hitem : ofJson? item = none := by
        cases item <;> first | rfl | cases hsingle
      rw [if_pos hsingle, documentOf?, forestOf?, hitem]
      rfl
    · -- the identifier is missing, so that the array is no record
      have hid : Scalar.ofJson? item = none := by simpa [isSingle] using hsingle
      have hrecord : ofJson? (.arr (item :: rest)) = none := by
        refine ofJson?_eq_none fun ms hms => ?_
        rw [fieldsOf?] at hms
        split at hms
        · cases hms
          exact hid
        · cases hms
      have hnone : forestOf? [.arr (item :: rest)] = none := by
        rw [forestOf?, hrecord]
        rfl
      rw [if_neg hsingle, documentOf?, hnone]
      cases forestOf? (item :: rest) <;> rfl

/-- A spelled out document has the spelled out records. -/
theorem documentOf?_spellDocument (value : Json) :
    documentOf? (spellDocument value) = (documentOf? value).map (Forest.map spellOut) := by
  cases value with
  | arr items =>
    rw [documentOf?_arr, spellDocument]
    by_cases hsingle : isSingle items = true
    · have hspelled := isSingle_spellValues items
      rw [if_pos hsingle, if_pos hsingle, spellObject, documentOf?_arr, hspelled, if_pos hsingle]
      exact forestOf?_spellItems [.arr items]
    · rw [if_neg hsingle, if_neg hsingle, documentOf?_arr, isSingle_spellItems, if_neg hsingle]
      exact forestOf?_spellItems items
  | obj members => exact forestOf?_spellItems [.obj members]
  | _ => rfl

/-- What is looked for in a text that is one value are the records of this value. -/
theorem readDocument_of_run {text : String} {value : Json}
    (h : Json.Reader.run (Json.Reader.value Json.maxDepth) text = .ok value) :
    readDocument text =
      match documentOf? value with
      | none => .error .misshapen
      | some records => .ok records := by
  change (do
    let p ← (Json.Reader.value Json.maxDepth >>= fun x => Json.Reader.finish >>= fun _ => pure x) text.toList
    pure p.1) = _ at h
  obtain ⟨⟨found, _⟩, hread, hfound⟩ := bind_eq_ok.1 h
  obtain ⟨⟨value', rest⟩, hvalue, hrest⟩ := bind_eq_ok.1 hread
  obtain ⟨⟨_, _⟩, hfinish, hlast⟩ := bind_eq_ok.1 hrest
  obtain rfl : found = value := Except.ok.inj hfound
  obtain rfl : value' = found := congrArg Prod.fst (Except.ok.inj hlast)
  simp only [readDocument, hvalue, bind, Except.bind]
  cases documentOf? value' with
  | none => rfl
  | some records =>
    dsimp only
    rw [hfinish]
    rfl

/-! ## Distinct keys -/

theorem lastOfEach_subset (entries : List (String × α)) : Json.lastOfEach entries ⊆ entries := by
  induction entries with
  | nil => exact fun _ h => h
  | cons e entries ih =>
    rw [Json.lastOfEach]
    split
    · exact List.subset_cons_of_subset _ ih
    · exact List.cons_subset_cons _ ih

theorem nodup_lastOfEach (entries : List (String × α)) : ((Json.lastOfEach entries).map Prod.fst).Nodup := by
  induction entries with
  | nil => exact List.nodup_nil
  | cons e entries ih =>
    rw [Json.lastOfEach]
    split
    · exact ih
    · next h =>
      refine List.nodup_cons.2 ⟨fun hkey => h ?_, ih⟩
      obtain ⟨e', he', hkey⟩ := List.mem_map.1 hkey
      exact List.any_eq_true.2 ⟨e', lastOfEach_subset entries he', decide_eq_true hkey⟩

theorem exists_of_mapM {f : α → Option β} {l : List α} {bs : List β} (h : l.mapM f = some bs) :
    ∀ b ∈ bs, ∃ a, f a = some b := by
  induction l generalizing bs with
  | nil =>
    cases h
    exact nofun
  | cons a l ih =>
    rw [List.mapM_cons] at h
    obtain ⟨b, hb, hrest⟩ := Option.bind_eq_some_iff.1 h
    obtain ⟨bs', hbs', hcons⟩ := Option.bind_eq_some_iff.1 hrest
    cases hcons
    exact List.forall_mem_cons.2 ⟨⟨a, hb⟩, ih hbs'⟩

/-- A table that is read has distinct keys, and values that were read. -/
theorem table?_eq_some {d : Json → Option α} {value : Json} {table : List (String × α)}
    (h : table? d value = some table) : (table.map Prod.fst).Nodup ∧ ∀ e ∈ table, ∃ v, d v = some e.2 := by
  cases value with
  | obj members =>
    obtain ⟨entries, hentries, hlast⟩ := Option.bind_eq_some_iff.1 h
    cases hlast
    refine ⟨nodup_lastOfEach entries, fun e he => ?_⟩
    obtain ⟨m, hm⟩ := exists_of_mapM hentries e (lastOfEach_subset entries he)
    obtain ⟨a, ha, rfl⟩ := Option.map_eq_some_iff.1 hm
    exact ⟨m.2, ha⟩
  | _ => cases h

/-- A list or table that may be missing is empty or was read. -/
theorem listField?_eq_some {ms : List (String × Json)} {key : String} {d : Json → Option (List α)} {l : List α}
    (h : listField? ms key d = some l) : l = [] ∨ ∃ v, d v = some l := by
  unfold listField? field? at h
  split at h
  · next value _ =>
    cases value with
    | null =>
      cases h
      exact Or.inl rfl
    | _ =>
      simp only [nullable, Option.map_map, Option.map_eq_some_iff] at h
      obtain ⟨l', hl', rfl⟩ := h
      exact Or.inr ⟨_, hl'⟩
  · cases h
    exact Or.inl rfl

/-- The fields from which the tables with keys come. -/
theorem tables_of_ofJson? {value : Json} {r : Record} (h : ofJson? value = some r) : ∃ ms,
    listField? ms "node_tbl" (table? (table? (list? Scalar.ofJson?))) = some r.lines ∧
      listField? ms "callees_tbl" (table? (list? Scalar.ofJson?)) = some r.callees := by
  obtain ⟨ms, -, h⟩ := Option.bind_eq_some_iff.1 h
  refine ⟨ms, ?_⟩
  obtain ⟨⟨opened, selected⟩, -, h⟩ := Option.bind_eq_some_iff.1 h
  -- the 25 fields before the tables
  iterate 25 obtain ⟨_, -, h⟩ := Option.bind_eq_some_iff.1 h
  obtain ⟨lines, hlines, h⟩ := Option.bind_eq_some_iff.1 h
  obtain ⟨callees, hcallees, h⟩ := Option.bind_eq_some_iff.1 h
  iterate 2 obtain ⟨_, -, h⟩ := Option.bind_eq_some_iff.1 h
  cases h
  exact ⟨hlines, hcallees⟩

/-- A record that is read has distinct keys. -/
theorem distinctKeys_of_ofJson? {value : Json} {r : Record} (h : ofJson? value = some r) : r.DistinctKeys := by
  obtain ⟨ms, hlines, hcallees⟩ := tables_of_ofJson? h
  refine ⟨?files, fun file hfile => ?lines, ?callees⟩
  case files =>
    rcases listField?_eq_some hlines with hnil | ⟨v, hv⟩
    · rw [hnil]
      exact List.nodup_nil
    · exact (table?_eq_some hv).1
  case lines =>
    rcases listField?_eq_some hlines with hnil | ⟨v, hv⟩
    · rw [hnil] at hfile
      cases hfile
    · obtain ⟨v', hv'⟩ := (table?_eq_some hv).2 file hfile
      exact (table?_eq_some hv').1
  case callees =>
    rcases listField?_eq_some hcallees with hnil | ⟨v, hv⟩
    · rw [hnil]
      exact List.nodup_nil
    · exact (table?_eq_some hv).1

theorem exists_forestOf? {value : Json} {records : Forest Record} (h : documentOf? value = some records) :
    ∃ items, forestOf? items = some records := by
  cases value with
  | arr items =>
    rw [documentOf?_arr] at h
    split at h
    · exact ⟨_, h⟩
    · exact ⟨_, h⟩
  | _ => exact ⟨_, h⟩

/-- The first record of a document has distinct keys. -/
theorem distinctKeys_of_documentOf? {value : Json} {records : Forest Record} (h : documentOf? value = some records) :
    ∀ first ∈ records.roots.head?, first.DistinctKeys := by
  obtain ⟨items, hitems⟩ := exists_forestOf? h
  cases items with
  | nil =>
    cases hitems
    simp [Forest.roots]
  | cons item rest =>
    obtain ⟨r, hr, hitems⟩ := Option.bind_eq_some_iff.1 hitems
    obtain ⟨children, -, hitems⟩ := Option.bind_eq_some_iff.1 hitems
    obtain ⟨rest', -, hitems⟩ := Option.bind_eq_some_iff.1 hitems
    cases hitems
    rintro _ ⟨⟩
    exact distinctKeys_of_ofJson? hr

/-! ## Texts -/

/-- What a text loads to is told by its document. -/
theorem loadText_of_run (order : KeyOrder) {text : String} {value : Json}
    (h : Json.Reader.run (Json.Reader.value Json.maxDepth) text = .ok value) :
    loadText order text =
      match documentOf? value with
      | none => .error (.json .misshapen)
      | some records => load (records.map (inOrder order)) := by
  rw [loadText, readDocument_of_run h]
  cases documentOf? value <;> rfl

/-- It can be told from the document once it is spelled out. -/
theorem loadText_of_run_spelled (order : KeyOrder) {text : String} {value : Json}
    (h : Json.Reader.run (Json.Reader.value Json.maxDepth) text = .ok value) :
    loadText order text =
      match documentOf? (spellDocument value) with
      | none => .error (.json .misshapen)
      | some records => load (records.map (inOrder order)) := by
  rw [loadText_of_run order h, documentOf?_spellDocument]
  cases documentOf? value with
  | none => rfl
  | some records =>
    change _ = load ((records.map spellOut).map (inOrder order))
    rw [map_inOrder_spellOut, load_spellOut]

/-- A text that loads with its keys met in one order loads in any other, to the same outline, and the tables agree. -/
theorem exists_loadText {order : KeyOrder} (order' : KeyOrder) {text : String} {value : Json} {o : Outline} {t : Tables}
    (h : Json.Reader.run (Json.Reader.value Json.maxDepth) text = .ok value)
    (hload : loadText order text = .ok (o, t)) :
    ∃ t' records, loadText order' text = .ok (o, t') ∧ documentOf? value = some records ∧
      ∀ first ∈ records.roots.head?, first.Agree t t' := by
  rw [loadText_of_run order h] at hload
  rw [loadText_of_run order' h]
  cases hdocument : documentOf? value with
  | none =>
    rw [hdocument] at hload
    cases hload
  | some records =>
    rw [hdocument] at hload
    obtain ⟨t', ht', hagree⟩ := exists_load_inOrder (distinctKeys_of_documentOf? hdocument) order' hload
    exact ⟨t', records, ht', rfl, hagree⟩

/-- A text that does not load with its keys met in one order does not load in any other. The error is the same unless,
in both orders, it tells of an identifier listed under a key. -/
theorem exists_loadText_eq_error {order : KeyOrder} (order' : KeyOrder) {text : String} {value : Json} {e : LoadError}
    (h : Json.Reader.run (Json.Reader.value Json.maxDepth) text = .ok value) (hload : loadText order text = .error e) :
    ∃ e', loadText order' text = .error e' ∧ (e' = e ∨ ∃ records, documentOf? value = some records ∧
      ∃ first ∈ records.roots.head?, first.Blames e ∧ first.Blames e') := by
  rw [loadText_of_run order h] at hload
  rw [loadText_of_run order' h]
  cases hdocument : documentOf? value with
  | none =>
    rw [hdocument] at hload
    exact ⟨e, hload, .inl rfl⟩
  | some records =>
    rw [hdocument] at hload
    obtain ⟨e', he', hblame⟩ := exists_load_inOrder_eq_error order' hload
    exact ⟨e', he', hblame.imp_right fun hfirst => ⟨records, rfl, hfirst⟩⟩

/-- **Numbers and their decimal texts are interchangeable.** Take two texts whose documents are the same once the
scalars of the records are spelled out. In whatever order their keys are met, they load to the same outline and tables,
or fail with the same error. If their keys are met in two different orders, both load to the same outline or both fail.
The tables agree then: they differ only at lines for which several keys list different identifiers. The errors differ
only if both tell of identifiers listed under keys. -/
theorem loadText_respelled {text text' : String} {value value' : Json}
    (h : Json.Reader.run (Json.Reader.value Json.maxDepth) text = .ok value)
    (h' : Json.Reader.run (Json.Reader.value Json.maxDepth) text' = .ok value')
    (hsame : spellDocument value = spellDocument value') :
    (∀ order, loadText order text = loadText order text') ∧
    (∀ order order' o t, loadText order text = .ok (o, t) →
      ∃ t' records, loadText order' text' = .ok (o, t') ∧ documentOf? value = some records ∧
        ∀ first ∈ records.roots.head?, first.Agree t t') ∧
    ∀ order order' e, loadText order text = .error e →
      ∃ e', loadText order' text' = .error e' ∧ (e' = e ∨ ∃ records, documentOf? value = some records ∧
        ∃ first ∈ records.roots.head?, first.Blames e ∧ first.Blames e') := by
  have hequal : ∀ order, loadText order text = loadText order text' := fun order => by
    rw [loadText_of_run_spelled order h, loadText_of_run_spelled order h', hsame]
  refine ⟨hequal, fun order order' o t hload => ?loads, fun order order' e hload => ?fails⟩
  case loads =>
    rw [← hequal order']
    exact exists_loadText order' h hload
  case fails =>
    rw [← hequal order']
    exact exists_loadText_eq_error order' h hload

open Json.Reader (Written run_of_written written_array written_object written_quote written_repr)

/-- A record in numbers, one of which is beyond the lines, with a child that is written as an array, and with two keys
for one line. -/
def inNumbers : Json :=
  .arr [.obj [("children", .arr [.arr [.int 2]]), ("el", .int 4294967296), ("id", .int 1),
    ("node_tbl", .obj [("f", .obj [(" 10", .arr [.int 1]), ("10", .arr [.int 2])])])]]

/-- The same document in texts. -/
def inTexts : Json :=
  .arr [.obj [("children", .arr [.arr [.str "2"]]), ("el", .str "4294967296"), ("id", .str "1"),
    ("node_tbl", .obj [("f", .obj [(" 10", .arr [.str "1"]), ("10", .arr [.str "2"])])])]]

theorem loadText_respelled_child :
    Json.Reader.run (Json.Reader.value Json.maxDepth) inNumbers.compact = .ok inNumbers ∧
    Json.Reader.run (Json.Reader.value Json.maxDepth) inTexts.compact = .ok inTexts ∧
    spellDocument inNumbers = spellDocument inTexts ∧
    ∀ order, loadText order inNumbers.compact = loadText order inTexts.compact := by
  have hone : ∀ {depth : Nat} {text : String} {j : Json}, Written depth text j →
      Written (depth + 1) (Json.arrayText [text]) (.arr [j]) := fun h => written_array (.cons h .nil)
  have hnumbers : Written Json.maxDepth inNumbers.compact inNumbers :=
    hone (written_object (.cons ⟨rfl, hone (hone (written_repr (by decide)))⟩ (.cons ⟨rfl, written_repr (by decide)⟩
      (.cons ⟨rfl, written_repr (by decide)⟩ (.cons ⟨rfl, written_object (.cons ⟨rfl, written_object
        (.cons ⟨rfl, hone (written_repr (by decide))⟩ (.cons ⟨rfl, hone (written_repr (by decide))⟩ .nil))⟩ .nil)⟩
          .nil)))))
  have htexts : Written Json.maxDepth inTexts.compact inTexts :=
    hone (written_object (.cons ⟨rfl, hone (hone (written_quote _))⟩ (.cons ⟨rfl, written_quote _⟩
      (.cons ⟨rfl, written_quote _⟩ (.cons ⟨rfl, written_object (.cons ⟨rfl, written_object
        (.cons ⟨rfl, hone (written_quote _)⟩ (.cons ⟨rfl, hone (written_quote _)⟩ .nil))⟩ .nil)⟩ .nil)))))
  have hsame : spellDocument inNumbers = spellDocument inTexts := rfl
  exact ⟨run_of_written hnumbers, run_of_written htexts, hsame,
    (loadText_respelled (run_of_written hnumbers) (run_of_written htexts) hsame).1⟩

end Record

end LoopSurvey
