import Mathlib.Order.Compare
import LoopSurvey.Proofs.Outline.LineOrder
import LoopSurvey.Proofs.Outline.Places
import LoopSurvey.Sample.Pair
/-!
# Sorted identifiers

Line keys of any lengths are in one total order (`LineKey.isLE_total`, `LineKey.isLE_trans`,
`LineKey.compare_eq_eq_iff`). A key may be missing. Then a flag in front of it says so, and pairs of a flag and a key,
compared entry by entry, are in the order that sorting goes by (`LineKey.isLE_flagged`). A sorted list begins with the
identifiers of the outline, in the order of their keys, and ends with the others as they were listed
(`sortByLine_stable`).
-/

namespace LoopSurvey

namespace LineKey

/-! ## The total order of line keys -/

theorem compare_eq_eq_iff {a b : LineKey} : compare a b = .eq ↔ a = b := by
  rw [compare_eq]
  exact Std.LawfulEqCmp.compare_eq_iff_eq

theorem compare_swap (a b : LineKey) : compare b a = (compare a b).swap := by
  rw [compare_eq, compare_eq]
  exact Std.OrientedCmp.eq_swap

theorem isLE_total (a b : LineKey) : (compare a b).isLE = true ∨ (compare b a).isLE = true := by
  rw [compare_swap a b]
  cases compare a b <;> simp

theorem isLE_trans {a b c : LineKey} (hab : (compare a b).isLE = true) (hbc : (compare b c).isLE = true) :
    (compare a c).isLE = true := by
  rw [compare_eq] at hab hbc ⊢
  exact Std.TransCmp.isLE_trans hab hbc

/-! ## Keys that may be missing -/

theorem le_some_some (a b : LineKey) : le (some a) (some b) = (compare a b).isLE := by
  rw [le]
  cases compare a b <;> rfl

/-- A key with a flag in front that tells whether it is missing. -/
def flagged : Option LineKey → Bool × LineKey
  | some key => (false, key)
  | none => (true, [])

/-- Flags are compared first and keys second. -/
theorem isLE_flagged (a b : Option LineKey) : (lexOrd.compare (flagged a) (flagged b)).isLE = le a b := by
  cases a with
  | none => cases b <;> rfl
  | some a =>
    cases b with
    | none => rfl
    | some b =>
      have hkeys : lexOrd.compare (flagged (some a)) (flagged (some b)) = compare a b := (compare_eq a b).symm
      rw [hkeys, le_some_some]

end LineKey

/-- Where an element with a property never follows one without, the elements with the property come first. -/
theorem eq_filter_append_filter_not {p : α → Prop} [DecidablePred p] {l : List α}
    (h : l.Pairwise fun a b => p b → p a) : l = l.filter (p ·) ++ l.filter (¬p ·) := by
  induction l with
  | nil => rfl
  | cons a l ih =>
    obtain ⟨hfirst, hrest⟩ := List.pairwise_cons.1 h
    by_cases ha : p a
    · simp only [List.filter_cons, ha, decide_true, not_true_eq_false, decide_false, if_true, List.cons_append,
        Bool.false_eq_true, if_false]
      rw [← ih hrest]
    · have hall : ∀ b ∈ a :: l, ¬p b := List.forall_mem_cons.2 ⟨ha, fun b hb hpb => ha (hfirst b hb hpb)⟩
      rw [List.filter_eq_nil_iff.2 fun b hb => by simpa using hall b hb, List.nil_append,
        List.filter_eq_self.2 fun b hb => decide_eq_true (hall b hb)]

namespace Outline

variable {o : Outline} {id : NodeId}

/-! ## The sorted list -/

theorem lineKey?_of_mem {p : Place Node} (h : p ∈ o.places) : o.lineKey? p.id = some p.lineKey := by
  rw [lineKey?, locate?_of_mem h]
  rfl

/-- The nodes of the outline are those with a key. -/
theorem lineKey?_eq_none_iff : o.lineKey? id = none ↔ id ∉ o.ids := by
  rw [lineKey?, Option.map_eq_none_iff, locate?_eq_none_iff]

/-- An identifier that sorting leaves behind one of the outline may well be of no node, but not the other way
round. -/
theorem mem_ids_of_le {id' : NodeId} (hle : LineKey.le (o.lineKey? id) (o.lineKey? id') = true) (h : id' ∈ o.ids) :
    id ∈ o.ids := by
  by_contra hmissing
  cases hkey : o.lineKey? id' with
  | none => exact lineKey?_eq_none_iff.1 hkey h
  | some key =>
    rw [lineKey?_eq_none_iff.2 hmissing, hkey] at hle
    cases hle

/-- Sorting goes by pairs of a flag and a key. -/
theorem sortByLine_eq_flagged (o : Outline) (ids : List NodeId) :
    o.sortByLine ids = ids.mergeSort fun a b =>
      (lexOrd.compare (LineKey.flagged (o.lineKey? a)) (LineKey.flagged (o.lineKey? b))).isLE := by
  simp only [LineKey.isLE_flagged]
  exact o.sortByLine_eq ids

/-- The identifiers of the outline come first, and the others follow as they were listed. -/
theorem sortByLine_eq_append (o : Outline) (ids : List NodeId) :
    o.sortByLine ids = (o.sortByLine ids).filter (· ∈ o.ids) ++ ids.filter (· ∉ o.ids) := by
  have hfirst : (o.sortByLine ids).Pairwise fun a b => b ∈ o.ids → a ∈ o.ids :=
    (o.sortedByLine_sortByLine ids).ordered.imp fun hle hb => mem_ids_of_le hle hb
  have hothers : (o.sortByLine ids).filter (· ∉ o.ids) = ids.filter (· ∉ o.ids) := by
    have h := o.filter_sortByLine ids none
    simpa only [lineKey?_eq_none_iff] using h
  rw [← hothers]
  exact eq_filter_append_filter_not hfirst

/-- The keys of the sorted list go up. -/
theorem pairwise_lineKey_sortByLine (o : Outline) (ids : List NodeId) :
    ((o.sortByLine ids).filterMap o.lineKey?).Pairwise fun a b => (LineKey.compare a b).isLE = true := by
  rw [List.pairwise_filterMap]
  refine (o.sortedByLine_sortByLine ids).ordered.imp fun hle key hkey key' hkey' => ?_
  rwa [hkey, hkey', LineKey.le_some_some] at hle

/-- **Sorting is stable and goes by line key.** Line keys of any lengths are in a total order, in which only equal keys
are equal and which turns round with its arguments. The sorted list has the same identifiers, however often each. It is
what stable sorting by pairs of a flag and a key comes to: it begins with the identifiers of the outline, which are
those that have a line key, in the order of these keys, and those of one key as they were listed, and it ends with all
others as they were listed. -/
theorem sortByLine_stable (o : Outline) (ids : List NodeId) :
    ((∀ a b : LineKey, (LineKey.compare a b).isLE = true ∨ (LineKey.compare b a).isLE = true) ∧
      (∀ a b c : LineKey, (LineKey.compare a b).isLE = true → (LineKey.compare b c).isLE = true →
        (LineKey.compare a c).isLE = true) ∧
      (∀ a b : LineKey, LineKey.compare a b = .eq ↔ a = b) ∧
      ∀ a b : LineKey, LineKey.compare b a = (LineKey.compare a b).swap) ∧
    (∀ p ∈ o.places, o.lineKey? p.id = some p.lineKey) ∧ (∀ id, o.lineKey? id = none ↔ id ∉ o.ids) ∧
    let sorted := o.sortByLine ids
    sorted.Perm ids ∧
    sorted = sorted.filter (· ∈ o.ids) ++ ids.filter (· ∉ o.ids) ∧
    ((sorted.filterMap o.lineKey?).Pairwise fun a b => (LineKey.compare a b).isLE = true) ∧
    (∀ key, sorted.filter (o.lineKey? · = some key) = ids.filter (o.lineKey? · = some key)) ∧
    sorted = ids.mergeSort fun a b =>
      (lexOrd.compare (LineKey.flagged (o.lineKey? a)) (LineKey.flagged (o.lineKey? b))).isLE :=
  ⟨⟨LineKey.isLE_total, fun _ _ _ => LineKey.isLE_trans, fun _ _ => LineKey.compare_eq_eq_iff, LineKey.compare_swap⟩,
    fun _ hp => lineKey?_of_mem hp, fun _ => lineKey?_eq_none_iff, (o.sortedByLine_sortByLine ids).perm,
    o.sortByLine_eq_append ids, o.pairwise_lineKey_sortByLine ids, fun key => o.filter_sortByLine ids (some key),
    o.sortByLine_eq_flagged ids⟩

/-- The loops share a key, which comes after that of the routine, and an identifier of no node comes last. -/
theorem sortByLine_stable_pair :
    let o := Sample.pairOutline
    let away : NodeId := ⟨"away", by decide, by decide⟩
    let sorted := o.sortByLine [Sample.secondId, away, Sample.firstId, Sample.routineId]
    (LineKey.compare [0] [0, 3]).isLE = true ∧ (LineKey.compare [0, 3] [0, 3, 0]).isLE = true ∧
    (LineKey.compare [0] [0, 3, 0]).isLE = true ∧
    sorted.filter (o.lineKey? · = some [0, 3]) = [Sample.secondId, Sample.firstId] ∧
    sorted = sorted.filter (· ∈ o.ids) ++ [away] := by
  intro o away sorted
  obtain ⟨⟨-, htrans, -, -⟩, -, -, -, hothers, -, hkey, -⟩ :=
    o.sortByLine_stable [Sample.secondId, away, Sample.firstId, Sample.routineId]
  have hfirst : (LineKey.compare [0] [0, 3]).isLE = true := by decide
  have hsecond : (LineKey.compare [0, 3] [0, 3, 0]).isLE = true := by decide
  have haway : [Sample.secondId, away, Sample.firstId, Sample.routineId].filter (· ∉ o.ids) = [away] := by decide
  rw [haway] at hothers
  exact ⟨hfirst, hsecond, htrans _ _ _ hfirst hsecond, (hkey [0, 3]).trans (by decide), hothers⟩

end Outline

end LoopSurvey
