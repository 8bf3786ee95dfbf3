import LoopSurvey.Outline.LineKey
/-!
# Sorting by line key

Line keys are compared as lists of numbers, entry by entry (`LineKey.compare_eq`), so the order of
possibly missing keys is total and transitive (`LineKey.le_total`, `LineKey.le_trans`). Sorting by line
key is the stable sort for it: the same identifiers, in the order of their keys, with identifiers whose
keys allow it kept in the order they had (`sortedByLine_sortByLine`), those of one key even where they are
repeated (`filter_sortByLine`).
-/

namespace LoopSurvey

namespace LineKey

/-! ## The order of line keys -/

theorem compare_eq (a b : LineKey) : compare a b = List.compareLex Ord.compare a b := by
  induction a generalizing b with
  | nil => cases b <;> rfl
  | cons x xs ih =>
    cases b with
    | nil => rfl
    | cons y ys => rw [compare, ih, List.compareLex_cons_cons]

theorem le_total (a b : Option LineKey) : (le a b || le b a) = true := by
  cases a <;> cases b <;> try rfl
  next a b =>
    simp only [le, compare_eq, Bool.or_eq_true, bne_iff_ne]
    have hswap : List.compareLex Ord.compare b a = (List.compareLex Ord.compare a b).swap :=
      Std.OrientedCmp.eq_swap
    rw [hswap]
    cases List.compareLex Ord.compare a b <;> simp

theorem le_trans (a b c : Option LineKey) (hab : le a b = true) (hbc : le b c = true) :
    le a c = true := by
  cases c with
  | none => cases a <;> rfl
  | some c =>
    cases b with
    | none => cases hbc
    | some b =>
      cases a with
      | none => cases hab
      | some a =>
        simp only [le, compare_eq, bne_iff_ne, ← Ordering.isLE_iff_ne_gt] at hab hbc ⊢
        exact Std.TransCmp.isLE_trans hab hbc

theorem le_refl (a : Option LineKey) : le a a = true := by
  have h := le_total a a
  rwa [Bool.or_self] at h

end LineKey

namespace Outline

/-! ## The sorted list -/

/-- A list of identifiers is sorted out of another one: the keys go up, and whatever the keys allow to
keep its order keeps it. -/
structure SortedByLine (o : Outline) (ids sorted : List NodeId) : Prop where
  perm : sorted.Perm ids
  ordered : sorted.Pairwise fun a b => LineKey.le (o.lineKey? a) (o.lineKey? b)
  stable : ∀ {a b}, LineKey.le (o.lineKey? a) (o.lineKey? b) → [a, b].Sublist ids → [a, b].Sublist sorted

theorem sortByLine_eq (o : Outline) (ids : List NodeId) :
    o.sortByLine ids = ids.mergeSort fun a b => LineKey.le (o.lineKey? a) (o.lineKey? b) := by
  unfold sortByLine
  rw [List.map_mergeSort (s := fun a b => LineKey.le (o.lineKey? a) (o.lineKey? b))]
  · rw [List.map_map]
    exact congrArg (List.mergeSort · _) (List.map_id ids)
  · intro a ha b hb
    obtain ⟨_, _, rfl⟩ := List.mem_map.1 ha
    obtain ⟨_, _, rfl⟩ := List.mem_map.1 hb
    rfl

/-- Sorting by line key is the stable sort by line key. -/
theorem sortedByLine_sortByLine (o : Outline) (ids : List NodeId) :
    o.SortedByLine ids (o.sortByLine ids) := by
  rw [sortByLine_eq]
  have trans := fun a b c : NodeId =>
    LineKey.le_trans (o.lineKey? a) (o.lineKey? b) (o.lineKey? c)
  have total := fun a b : NodeId => LineKey.le_total (o.lineKey? a) (o.lineKey? b)
  exact {
    perm := List.mergeSort_perm ids _
    ordered := List.pairwise_mergeSort trans total ids
    stable := fun hab h => List.pair_sublist_mergeSort trans total hab h }

/-- Identifiers of one line key come out of sorting as they were, repetitions included. -/
theorem filter_sortByLine (o : Outline) (ids : List NodeId) (key : Option LineKey) :
    (o.sortByLine ids).filter (o.lineKey? · = key) = ids.filter (o.lineKey? · = key) := by
  have hsame : (ids.filter (o.lineKey? · = key)).Pairwise fun a b => LineKey.le (o.lineKey? a) (o.lineKey? b) := by
    refine List.pairwise_of_forall_mem_list fun a ha b hb => ?_
    rw [of_decide_eq_true (List.mem_filter.1 ha).2, of_decide_eq_true (List.mem_filter.1 hb).2]
    exact LineKey.le_refl key
  have hkept : (ids.filter (o.lineKey? · = key)).Sublist (o.sortByLine ids) := by
    rw [sortByLine_eq]
    exact List.sublist_mergeSort (fun a b c : NodeId => LineKey.le_trans (o.lineKey? a) (o.lineKey? b) (o.lineKey? c))
      (fun a b => LineKey.le_total (o.lineKey? a) (o.lineKey? b)) hsame List.filter_sublist
  have hsub := hkept.filter (o.lineKey? · = key)
  simp only [List.filter_filter, Bool.and_self] at hsub
  exact (hsub.eq_of_length ((o.sortedByLine_sortByLine ids).perm.filter _).length_eq.symm).symm

/-- A list in order stays as it is. -/
theorem sortByLine_eq_self {o : Outline} {ids : List NodeId}
    (h : ids.Pairwise fun a b => LineKey.le (o.lineKey? a) (o.lineKey? b)) : o.sortByLine ids = ids := by
  rw [sortByLine_eq]
  exact List.mergeSort_of_pairwise h

/-- Sorting a sorted list once more changes nothing. -/
theorem sortByLine_sortByLine (o : Outline) (ids : List NodeId) :
    o.sortByLine (o.sortByLine ids) = o.sortByLine ids :=
  sortByLine_eq_self (o.sortedByLine_sortByLine ids).ordered

@[simp] theorem mem_sortByLine {o : Outline} {ids : List NodeId} {id : NodeId} :
    id ∈ o.sortByLine ids ↔ id ∈ ids :=
  (o.sortedByLine_sortByLine ids).perm.mem_iff

@[simp] theorem length_sortByLine (o : Outline) (ids : List NodeId) :
    (o.sortByLine ids).length = ids.length :=
  (o.sortedByLine_sortByLine ids).perm.length_eq

theorem sortByLine_eq_nil_iff {o : Outline} {ids : List NodeId} : o.sortByLine ids = [] ↔ ids = [] := by
  rw [← List.length_eq_zero_iff, length_sortByLine, List.length_eq_zero_iff]

end Outline

end LoopSurvey
