import LoopSurvey.Proofs.Json.Compact
import LoopSurvey.Proofs.Json.Typed
import LoopSurvey.Source.Range
/-!
# Annotation ranges as JSON

The members of the objects that encode annotation ranges may come in any order, and what is not known may be null or
left out (`AnnotationRange.Encodes`). From the text of an array of such objects the ranges are read that they encode
(`AnnotationRange.parseAll_of_run`), and so they are from its compact text (`AnnotationRange.parseAll_compact`).
-/

namespace LoopSurvey

open Json (IsObject)
open Json.Reader (Finds ReadsBack Written finds_complete finds_field finds_unsigned getD_seen optional
  readsBack_object seen seen_cons_of_ne seen_cons_self seen_of_mem string)

/-! ## Encodings -/

namespace Position

/-- Line and column have 32 bits. -/
structure Fits (p : Position) : Prop where
  line : p.line ≤ maxCount
  column : p.column ≤ maxCount

/-- The members of a position's object. -/
inductive Member (p : Position) : String → Json → Prop
  | line : Member p "line" (.int p.line)
  | column : Member p "ch" (.int p.column)

/-- A value encodes a position. -/
def Encodes (p : Position) : Json → Prop := IsObject p.Member ["line", "ch"]

end Position

/-- A text, or null if there is none. -/
def textOrNull : Option String → Json
  | none => .null
  | some s => .str s

namespace Definition

/-- The members of a definition's object. -/
inductive Member (d : Definition) : String → Json → Prop
  | line : Member d "line" (.int d.line)
  | path : Member d "path" (textOrNull d.path)
  | code : Member d "code" (textOrNull d.code)

/-- The members that may not be left out. -/
def needed (d : Definition) : List String :=
  "line" :: ((d.path.map fun _ => "path").toList ++ (d.code.map fun _ => "code").toList)

theorem mem_needed {d : Definition} {key : String} :
    key ∈ d.needed ↔ key = "line" ∨ key = "path" ∧ d.path.isSome ∨ key = "code" ∧ d.code.isSome := by
  rcases d with ⟨line, _ | path, _ | code⟩ <;> simp [needed]

/-- A value encodes a definition. -/
def Encodes (d : Definition) : Json → Prop := IsObject d.Member d.needed

end Definition

namespace AnnotationRange

/-- Lines and columns have 32 bits. -/
structure Fits (r : AnnotationRange) : Prop where
  start : r.start.Fits
  stop : r.stop.Fits
  definition : ∀ d ∈ r.definition, d.line ≤ maxCount

/-- The members of a range's object. -/
inductive Member (r : AnnotationRange) : String → Json → Prop
  | start {j} : r.start.Encodes j → Member r "start" j
  | stop {j} : r.stop.Encodes j → Member r "end" j
  | undefined : r.definition = none → Member r "def" .null
  | definition {d j} : r.definition = some d → d.Encodes j → Member r "def" j

/-- The members that may not be left out. -/
def needed (r : AnnotationRange) : List String :=
  "start" :: "end" :: (r.definition.map fun _ => "def").toList

theorem mem_needed {r : AnnotationRange} {key : String} :
    key ∈ r.needed ↔ key = "start" ∨ key = "end" ∨ key = "def" ∧ r.definition.isSome := by
  rcases r with ⟨start, stop, _ | d⟩ <;> simp [needed]

/-- A value encodes a range. -/
def Encodes (r : AnnotationRange) : Json → Prop := IsObject r.Member r.needed

/-- A value encodes a list of ranges. -/
def EncodesAll (ranges : List AnnotationRange) (j : Json) : Prop :=
  ∃ items, j = .arr items ∧ List.Forall₂ Encodes ranges items

end AnnotationRange

/-! ## Every list of ranges is encoded -/

theorem Position.encodes (p : Position) : p.Encodes (.obj [("ch", .int p.column), ("line", .int p.line)]) :=
  ⟨by simp, by simpa using ⟨.column, .line⟩, by simp⟩

theorem Definition.encodes (d : Definition) :
    d.Encodes (.obj [("code", textOrNull d.code), ("line", .int d.line), ("path", textOrNull d.path)]) := by
  refine ⟨by simp, by simpa using ⟨.code, .line, .path⟩, fun key hkey => ?_⟩
  rcases mem_needed.1 hkey with rfl | ⟨rfl, -⟩ | ⟨rfl, -⟩ <;> simp

namespace AnnotationRange

theorem exists_encodes (r : AnnotationRange) : ∃ j, r.Encodes j := by
  obtain ⟨v, hv⟩ : ∃ v, r.Member "def" v := by
    cases h : r.definition with
    | none => exact ⟨_, .undefined h⟩
    | some d => exact ⟨_, .definition h d.encodes⟩
  refine ⟨.obj [("def", v), ("end", _), ("start", _)], by simp,
    by simpa using ⟨hv, .stop r.stop.encodes, .start r.start.encodes⟩, fun key hkey => ?_⟩
  rcases mem_needed.1 hkey with rfl | rfl | ⟨rfl, -⟩ <;> simp

theorem exists_encodesAll (ranges : List AnnotationRange) : ∃ j, EncodesAll ranges j := by
  induction ranges with
  | nil => exact ⟨_, _, rfl, .nil⟩
  | cons r ranges ih =>
    obtain ⟨_, items, rfl, hitems⟩ := ih
    obtain ⟨j, hj⟩ := r.exists_encodes
    exact ⟨_, j :: items, rfl, .cons hj hitems⟩

end AnnotationRange

/-! ## Reading encodings -/

theorem finds_textOrNull (s : Option String) : Finds (optional string) (textOrNull s) s := by
  cases s with
  | none => exact Json.Reader.finds_optional_none string
  | some s => exact Json.Reader.finds_optional_some (Json.Reader.finds_string s) (by simp [textOrNull])

theorem Position.finds {p : Position} (hp : p.Fits) {j : Json} (h : p.Encodes j) :
    Finds AnnotationRange.position j p := by
  obtain @⟨members, hnodup, hmembers, hneeded⟩ := h
  refine finds_complete (fun keys => (seen keys "line" p.line, seen keys "ch" p.column)) ?_ hnodup ?_
  · rintro keys ⟨key, value⟩ hm hfresh
    cases hmembers _ hm with
    | line =>
      rw [seen_cons_self, seen_cons_of_ne (by simp)]
      exact finds_field hfresh (finds_unsigned hp.line) fun n => (some n, seen keys "ch" p.column)
    | column =>
      rw [seen_cons_self, seen_cons_of_ne (by simp)]
      exact finds_field hfresh (finds_unsigned hp.column) fun n => (seen keys "line" p.line, some n)
  · rw [seen_of_mem (List.mem_reverse.2 (hneeded "line" (by decide))),
      seen_of_mem (List.mem_reverse.2 (hneeded "ch" (by decide)))]
    rfl

theorem Definition.finds {d : Definition} (hline : d.line ≤ maxCount) {j : Json} (h : d.Encodes j) :
    Finds AnnotationRange.definitionReader j d := by
  obtain @⟨members, hnodup, hmembers, hneeded⟩ := h
  refine finds_complete
    (fun keys => (seen keys "line" d.line, seen keys "path" d.path, seen keys "code" d.code)) ?_ hnodup ?_
  · rintro keys ⟨key, value⟩ hm hfresh
    cases hmembers _ hm with
    | line =>
      rw [seen_cons_self, seen_cons_of_ne (by simp), seen_cons_of_ne (by simp)]
      exact finds_field hfresh (finds_unsigned hline)
        fun n => (some n, seen keys "path" d.path, seen keys "code" d.code)
    | path =>
      rw [seen_cons_self, seen_cons_of_ne (by simp), seen_cons_of_ne (by simp)]
      exact finds_field hfresh (finds_textOrNull d.path)
        fun s => (seen keys "line" d.line, some s, seen keys "code" d.code)
    | code =>
      rw [seen_cons_self, seen_cons_of_ne (by simp), seen_cons_of_ne (by simp)]
      exact finds_field hfresh (finds_textOrNull d.code)
        fun s => (seen keys "line" d.line, seen keys "path" d.path, some s)
  · have hpath : (seen (members.map Prod.fst).reverse "path" d.path).getD none = d.path :=
      getD_seen fun s hs => List.mem_reverse.2 (hneeded "path" (by simp [mem_needed, hs]))
    have hcode : (seen (members.map Prod.fst).reverse "code" d.code).getD none = d.code :=
      getD_seen fun s hs => List.mem_reverse.2 (hneeded "code" (by simp [mem_needed, hs]))
    simp only [seen_of_mem (List.mem_reverse.2 (hneeded "line" List.mem_cons_self)), hpath, hcode]
    rfl

namespace AnnotationRange

theorem finds {r : AnnotationRange} (hr : r.Fits) {j : Json} (h : r.Encodes j) : Finds reader j r := by
  obtain @⟨members, hnodup, hmembers, hneeded⟩ := h
  refine finds_complete
    (fun keys => (seen keys "start" r.start, seen keys "end" r.stop, seen keys "def" r.definition)) ?_ hnodup ?_
  · rintro keys ⟨key, value⟩ hm hfresh
    cases hmembers _ hm with
    | start h =>
      rw [seen_cons_self, seen_cons_of_ne (by simp), seen_cons_of_ne (by simp)]
      exact finds_field hfresh (Position.finds hr.start h)
        fun p => (some p, seen keys "end" r.stop, seen keys "def" r.definition)
    | stop h =>
      rw [seen_cons_self, seen_cons_of_ne (by simp), seen_cons_of_ne (by simp)]
      exact finds_field hfresh (Position.finds hr.stop h)
        fun p => (seen keys "start" r.start, some p, seen keys "def" r.definition)
    | undefined h =>
      rw [seen_cons_self, seen_cons_of_ne (by simp), seen_cons_of_ne (by simp)]
      have hnone : Finds (optional definitionReader) .null r.definition :=
        h ▸ Json.Reader.finds_optional_none definitionReader
      exact finds_field hfresh hnone fun d => (seen keys "start" r.start, seen keys "end" r.stop, some d)
    | definition h hd =>
      rw [seen_cons_self, seen_cons_of_ne (by simp), seen_cons_of_ne (by simp)]
      have hsome : Finds (optional definitionReader) value r.definition :=
        h ▸ Json.Reader.finds_optional_some (Definition.finds (hr.definition _ h) hd) (by cases hd; simp)
      exact finds_field hfresh hsome fun d => (seen keys "start" r.start, seen keys "end" r.stop, some d)
  · have hdefinition : (seen (members.map Prod.fst).reverse "def" r.definition).getD none = r.definition :=
      getD_seen fun d hd => List.mem_reverse.2 (hneeded "def" (by simp [mem_needed, hd]))
    simp only [seen_of_mem (List.mem_reverse.2 (hneeded "start" (by simp [mem_needed]))),
      seen_of_mem (List.mem_reverse.2 (hneeded "end" (by simp [mem_needed]))), hdefinition]
    rfl

variable {ranges : List AnnotationRange} {j : Json}

theorem finds_all (hfits : ∀ r ∈ ranges, r.Fits) (h : EncodesAll ranges j) :
    Finds (Json.Reader.list reader) j ranges := by
  obtain ⟨items, rfl, hitems⟩ := h
  refine Json.Reader.finds_list ?_
  induction hitems with
  | nil => exact .nil
  | cons hitem _ ih =>
    rw [List.forall_mem_cons] at hfits
    exact .cons (finds hfits.1 hitem) (ih hfits.2)

/-- Ranges are read from any text of a value that encodes them. -/
theorem parseAll_of_run {depth : Nat} {text : String} (hfits : ∀ r ∈ ranges, r.Fits) (h : EncodesAll ranges j)
    (htext : (Json.Reader.value depth).run text = .ok j) : parseAll text = .ok ranges :=
  Json.Reader.run_of_finds (finds_all hfits h) htext

end AnnotationRange

/-! ## Compact texts of encodings -/

section Compact

variable {depth : Nat} {j : Json}

theorem written_count {n : Nat} (h : n ≤ maxCount) : Written depth (Json.int n).compact (.int n) :=
  Json.Reader.written_repr (Nat.le_trans h (by decide))

theorem written_textOrNull (s : Option String) : Written depth (textOrNull s).compact (textOrNull s) := by
  cases s with
  | none => exact Json.Reader.written_null
  | some s => exact Json.Reader.written_quote s

theorem Position.readsBack {p : Position} (hp : p.Fits) (h : p.Encodes j) : ReadsBack (depth + 1) p.Encodes j := by
  refine readsBack_object h fun key value hmember => ?_
  cases hmember with
  | line => exact ⟨_, written_count hp.line, .line⟩
  | column => exact ⟨_, written_count hp.column, .column⟩

theorem Definition.readsBack {d : Definition} (hline : d.line ≤ maxCount) (h : d.Encodes j) :
    ReadsBack (depth + 1) d.Encodes j := by
  refine readsBack_object h fun key value hmember => ?_
  cases hmember with
  | line => exact ⟨_, written_count hline, .line⟩
  | path => exact ⟨_, written_textOrNull d.path, .path⟩
  | code => exact ⟨_, written_textOrNull d.code, .code⟩

namespace AnnotationRange

theorem readsBack {r : AnnotationRange} (hr : r.Fits) (h : r.Encodes j) : ReadsBack (depth + 2) r.Encodes j := by
  refine readsBack_object h fun key value hmember => ?_
  cases hmember with
  | start h =>
    obtain ⟨_, hwritten, h'⟩ := Position.readsBack hr.start h
    exact ⟨_, hwritten, .start h'⟩
  | stop h =>
    obtain ⟨_, hwritten, h'⟩ := Position.readsBack hr.stop h
    exact ⟨_, hwritten, .stop h'⟩
  | undefined h => exact ⟨_, Json.Reader.written_null, .undefined h⟩
  | definition h hd =>
    obtain ⟨_, hwritten, h'⟩ := Definition.readsBack (hr.definition _ h) hd
    exact ⟨_, hwritten, .definition h h'⟩

variable {ranges : List AnnotationRange}

theorem readsBack_all (hfits : ∀ r ∈ ranges, r.Fits) (h : EncodesAll ranges j) :
    ReadsBack (depth + 3) (EncodesAll ranges) j := by
  obtain ⟨items, rfl, hitems⟩ := h
  refine Json.Reader.readsBack_array ?_
  induction hitems with
  | nil => exact .nil
  | cons hitem _ ih =>
    rw [List.forall_mem_cons] at hfits
    exact .cons (readsBack hfits.1 hitem) (ih hfits.2)

/-- Ranges are read from the compact text of a value that encodes them. -/
theorem parseAll_compact (hfits : ∀ r ∈ ranges, r.Fits) (h : EncodesAll ranges j) :
    parseAll j.compact = .ok ranges := by
  obtain ⟨j', hwritten, h'⟩ : ReadsBack 3 (EncodesAll ranges) j := readsBack_all hfits h
  exact parseAll_of_run hfits h' (Json.Reader.run_of_written hwritten)

end AnnotationRange

end Compact

end LoopSurvey
