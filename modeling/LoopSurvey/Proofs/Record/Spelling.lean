import LoopSurvey.Proofs.Decimal.Digits
import LoopSurvey.Proofs.Record.Loading
/-!
# Numbers and their decimal texts

A whole number and its decimal text are the same scalar: the same text, the same line and the same identifier
(`Scalar.toText_spellOut`, `Scalar.line?_spellOut`, `Scalar.toId_spellOut`). So records may have their numbers
spelled out wherever a scalar stands, and load as before (`Record.load_spellOut`).
-/

namespace LoopSurvey

/-! ## Leading numbers -/

theorem digitsValue_eq (ds : List Char) : Json.digitsValue ds = Nat.ofDigitChars 10 ds 0 := by
  have hstep : ∀ n c, n * 10 + Json.digitValue c = 10 * n + (c.toNat - '0'.toNat) := fun n c => by
    rw [Json.digitValue, Nat.mul_comm]
  simp only [Json.digitsValue, Nat.ofDigitChars, hstep]

theorem toList_repr_ne_nil (n : Nat) : (Nat.repr n).toList ≠ [] := by
  rw [Nat.repr_eq_ofList_toDigits, String.toList_ofList]
  exact Nat.toDigits_ne_nil

/-- A written number begins with itself. -/
theorem leadingNumber?_repr (n : Nat) : leadingNumber? (Nat.repr n) = if n ≤ maxCount then some n else none := by
  have hdigits : ∀ c ∈ (Nat.repr n).toList, c.isDigit = true := fun c => Decimal.isDigit_of_mem_repr
  have hblanks : (Nat.repr n).toList.dropWhile Text.isBlank = (Nat.repr n).toList := by
    refine @dropWhile_eq_of_append _ _ [] _ (fun _ h => nomatch h) fun c hc => ?_
    exact isBlank_eq_false_of_isDigit (hdigits c (List.mem_of_mem_head? hc))
  unfold leadingNumber?
  rw [hblanks, List.takeWhile_eq_self_iff.2 hdigits]
  split
  · next h => exact absurd h (toList_repr_ne_nil n)
  · rw [digitsValue_eq, Decimal.ofDigitChars_repr]

/-- What begins with a sign does not begin with a number. -/
theorem leadingNumber?_neg (s : String) : leadingNumber? ("-" ++ s) = none := by
  unfold leadingNumber?
  rw [String.toList_append]
  rfl

/-! ## Scalars -/

namespace Scalar

/-- The scalar with a whole number spelled out as a text. -/
def spellOut : Scalar → Scalar
  | int n => text (toString n)
  | s => s

@[simp] theorem toText_spellOut (s : Scalar) : s.spellOut.toText = s.toText := by
  cases s <;> rfl

@[simp] theorem line?_spellOut (s : Scalar) : s.spellOut.line? = s.line? := by
  cases s with
  | int n =>
    cases n with
    | ofNat n =>
      have hrange : (0 ≤ (Int.ofNat n) ∧ Int.ofNat n ≤ maxCount) ↔ n ≤ maxCount := by
        simp only [Int.ofNat_eq_natCast]
        omega
      simp only [line?, hrange]
      exact leadingNumber?_repr n
    | negSucc n => exact leadingNumber?_neg _
  | float x => rfl
  | text s => rfl

@[simp] theorem toId_spellOut (s : Scalar) : s.spellOut.toId = s.toId := by
  rw [toId, toId, toText_spellOut]

end Scalar

/-! ## Records -/

namespace Record

/-- Identifiers with their numbers spelled out. -/
def spellOutAll (ids : List Scalar) : List Scalar := ids.map Scalar.spellOut

/-- A table with a change made to each of its values. -/
def mapTable (f : α → β) (table : List (κ × α)) : List (κ × β) := table.map fun e => (e.1, f e.2)

/-- The record with every whole number that stands for a scalar spelled out. -/
def spellOut (r : Record) : Record :=
  { r with
    id := r.id.spellOut
    path := r.path.map Scalar.spellOut
    startLine := r.startLine.map Scalar.spellOut
    endLine := r.endLine.map Scalar.spellOut
    unit := r.unit.map Scalar.spellOut
    fileId := r.fileId.map Scalar.spellOut
    level := r.level.map Scalar.spellOut
    lines := mapTable (mapTable spellOutAll) r.lines
    callees := mapTable spellOutAll r.callees
    targets := spellOutAll r.targets
    lastViewed := r.lastViewed.map Scalar.spellOut }

variable (r : Record)

theorem map_toText_spellOut (s : Option Scalar) : (s.map Scalar.spellOut).map Scalar.toText = s.map Scalar.toText := by
  rw [Option.map_map]
  exact congrArg (s.map ·) (funext Scalar.toText_spellOut)

theorem bind_line?_spellOut (s : Option Scalar) : (s.map Scalar.spellOut).bind Scalar.line? = s.bind Scalar.line? := by
  rw [Option.bind_map]
  exact congrArg s.bind (funext Scalar.line?_spellOut)

theorem payload_spellOut : r.spellOut.payload = r.payload := by
  simp only [payload, spellOut, map_toText_spellOut, bind_line?_spellOut]
  rfl

theorem label_spellOut : r.spellOut.label = r.label := by
  have hestimation : r.spellOut.estimation = r.estimation := by
    simp only [estimation, spellOut, bind_line?_spellOut]
  simp only [label, hestimation]
  rfl

theorem toNode_spellOut : r.spellOut.toNode = r.toNode := by
  have hid : r.spellOut.id.toId = r.id.toId := r.id.toId_spellOut
  simp only [toNode, hid, payload_spellOut, label_spellOut]
  rfl

/-! ## Tables -/

/-- Steps along a table do not see a change that none of them sees. -/
theorem mapM_mapTable {ε : Type} {κ α β γ : Type} {f : α → β} {g : β → Except ε γ} {g' : α → Except ε γ}
    (h : ∀ a, g (f a) = g' a) (table : List (κ × α)) :
    ((mapTable f table).mapM fun e => do pure (e.1, ← g e.2)) =
      (table.mapM fun e => do pure (e.1, ← g' e.2)) := by
  rw [mapTable, List.mapM_map]
  exact congrArg (List.mapM · table) (funext fun e => by rw [Function.comp, h])

theorem mapM_toId_spellOutAll (ids : List Scalar) : (spellOutAll ids).mapM Scalar.toId = ids.mapM Scalar.toId := by
  rw [spellOutAll, List.mapM_map]
  exact congrArg (List.mapM · ids) (funext Scalar.toId_spellOut)

theorem lineEntries_spellOut (entries : List (String × List Scalar)) :
    lineEntries (mapTable spellOutAll entries) = lineEntries entries := by
  have hnumbered : ((mapTable spellOutAll entries).filterMap fun e => (leadingNumber? e.1).map (·, e.2)) =
      mapTable spellOutAll (entries.filterMap fun e => (leadingNumber? e.1).map (·, e.2)) := by
    rw [mapTable, mapTable, List.filterMap_map, List.map_filterMap]
    refine List.filterMap_congr fun e _ => ?_
    rw [Option.map_map]
    rfl
  rw [lineEntries, lineEntries, hnumbered, mapM_mapTable mapM_toId_spellOutAll]

theorem tables_spellOut : r.spellOut.tables = r.tables := by
  have hlast : (r.lastViewed.map Scalar.spellOut).mapM Scalar.toId = r.lastViewed.mapM Scalar.toId := by
    cases r.lastViewed with
    | none => rfl
    | some s => simp only [Option.map_some, Option.mapM_some, Scalar.toId_spellOut]
  simp only [tables, spellOut, mapM_mapTable lineEntries_spellOut, mapM_mapTable mapM_toId_spellOutAll,
    mapM_toId_spellOutAll, hlast]

theorem firstTables_spellOut (records : Forest Record) : firstTables (records.map spellOut) = firstTables records := by
  cases records with
  | nil => rfl
  | cons first children rest => exact first.tables_spellOut

/-- Records with their numbers spelled out load as before. -/
theorem load_spellOut (records : Forest Record) : load (records.map spellOut) = load records := by
  have hnodes : (records.map spellOut).map toNode = records.map toNode := by
    rw [Forest.map_map]
    exact Forest.map_congr fun r _ => r.toNode_spellOut
  rw [load, load, firstTables_spellOut, outline_congr hnodes]

end Record

end LoopSurvey
