import Mathlib.Data.List.Rotate
import LoopSurvey.Viewer.Command
/-!
# The order of the judgments

The next judgment is the one after the first place of the current one, so a value that is listed twice leads back to
where it was listed first. Selecting the next judgment over and over goes through the whole list, from any judgment
on, just if the list has each value once before the first value comes again, if any does (`ComesRound`): then it
comes to every value (`ComesRound.reaches`). In any other list there are a value to start with and a value that is
never come to (`exists_unreached`), as all that follows is between a value and its repetition.
-/

namespace LoopSurvey.Judgment

open Viewer (judgmentAfter?)

variable {judgments order rest others : List Judgment} {c j : Judgment}

/-! ## The next judgment -/

theorem judgmentAfter?_of_not_mem (h : c ∉ judgments) : judgmentAfter? judgments c = judgments.head? := by
  have hnone : judgments.findIdx? (· = c) = none :=
    List.findIdx?_eq_none_iff.2 fun j hj => decide_eq_false fun he => h (he ▸ hj)
  rw [judgmentAfter?, hnone, List.head?_eq_getElem?]

/-- What follows the first place of a judgment is next, and after the last place the list starts over. -/
theorem judgmentAfter?_append {before later : List Judgment} (h : c ∉ before) :
    judgmentAfter? (before ++ c :: later) c = (later ++ (before ++ c :: later)).head? := by
  have hfirst : (before ++ c :: later).findIdx? (· = c) = some before.length := by
    refine List.findIdx?_eq_some_iff_getElem.2 ⟨by simp, by simp, fun i hi => ?_⟩
    rw [List.getElem_append_left hi]
    exact fun he => h (of_decide_eq_true he ▸ List.getElem_mem hi)
  rw [judgmentAfter?, hfirst]
  dsimp only
  cases later with
  | nil =>
    have hover : (before.length + 1) % (before ++ [c]).length = 0 := by simp
    rw [hover, List.nil_append, List.head?_eq_getElem?]
  | cons next later =>
    have hwithin : (before.length + 1) % (before ++ c :: next :: later).length = before.length + 1 :=
      Nat.mod_eq_of_lt (by simp)
    rw [hwithin]
    simp

/-- The judgment of a node once the next one has been selected. -/
def following (judgments : List Judgment) (c : Judgment) : Judgment := (judgmentAfter? judgments c).getD c

theorem following_of_eq_some (h : judgmentAfter? judgments c = some j) : following judgments c = j := by
  rw [following, h, Option.getD_some]

theorem not_mem_of_nodup_middle {before later : List Judgment} (h : (before ++ c :: later).Nodup) : c ∉ before :=
  fun hc => (List.nodup_cons.1 (List.nodup_middle.1 h)).1 (List.mem_append_left later hc)

/-! ## Coming round -/

/-- The list has each of its values once, and if it goes on, it goes on with the first one. -/
def ComesRound (judgments : List Judgment) : Prop :=
  ∃ order rest, judgments = order ++ rest ∧ order.Nodup ∧ rest ⊆ order ∧ ∀ j ∈ rest.head?, j ∈ order.head?

/-- Whether a list comes round is found out by trying where its order may end. -/
theorem comesRound_iff : ComesRound judgments ↔ ∃ n ∈ List.range (judgments.length + 1), (judgments.take n).Nodup ∧
    (∀ j ∈ judgments.drop n, j ∈ judgments.take n) ∧
    ∀ j ∈ (judgments.drop n).head?, j ∈ (judgments.take n).head? := by
  constructor
  · rintro ⟨order, rest, rfl, hnodup, hsubset, hround⟩
    have hlength : order.length < (order ++ rest).length + 1 := by
      rw [List.length_append]
      omega
    refine ⟨order.length, List.mem_range.2 hlength, ?_⟩
    rw [List.take_left, List.drop_left]
    exact ⟨hnodup, fun j hj => hsubset hj, hround⟩
  · rintro ⟨n, -, hnodup, hsubset, hround⟩
    exact ⟨_, _, (List.take_append_drop n judgments).symm, hnodup, fun j hj => hsubset j hj, hround⟩

instance : DecidablePred ComesRound := fun _ => decidable_of_iff _ comesRound_iff.symm

example : ComesRound [.notYet, .judged "Kernel", .notYet, .judged "Kernel"] := by decide

example : ¬ComesRound [.notYet, .judged "Kernel", .notYet, .judged "NotKernel"] := by decide

theorem comesRound_of_nodup (h : judgments.Nodup) : ComesRound judgments :=
  ⟨judgments, [], (List.append_nil _).symm, h, List.nil_subset _, fun _ hj => nomatch hj⟩

/-- A list that begins with a judgment once it has been turned round to it. -/
theorem exists_split_of_isRotated (h : order ~r (c :: others)) :
    ∃ before later, order = before ++ c :: later ∧ others = later ++ before := by
  obtain ⟨n, hn, rfl⟩ := List.isRotated_iff_mod.1 h.symm
  rw [List.rotate_eq_drop_append_take hn]
  cases n with
  | zero => exact ⟨[], others, by simp, by simp⟩
  | succ n => exact ⟨others.drop n, others.take n, by simp, by simp⟩

section Round

variable (hnodup : order.Nodup) (hround : ∀ j ∈ rest.head?, j ∈ order.head?)
include hnodup hround

/-- The next judgment is the next one of the order, however the list goes on. -/
theorem judgmentAfter?_of_isRotated (h : order ~r (c :: others)) :
    judgmentAfter? (order ++ rest) c = (others ++ [c]).head? := by
  obtain ⟨before, later, rfl, rfl⟩ := exists_split_of_isRotated h
  have hc : c ∉ before := not_mem_of_nodup_middle hnodup
  rw [List.append_assoc, List.cons_append, judgmentAfter?_append hc]
  cases later with
  | cons next later => rfl
  | nil =>
    cases rest with
    | nil => cases before <;> rfl
    | cons r rest =>
      have hr : (before ++ [c]).head? = some r := hround r rfl
      rw [List.nil_append, List.nil_append, hr]
      rfl

/-- Selecting the next judgment over and over goes round the order. -/
theorem exists_iterate_following (before : List Judgment) {later : List Judgment}
    (h : order ~r (c :: (before ++ j :: later))) :
    (following (order ++ rest))^[before.length + 1] c = j := by
  induction before generalizing c later with
  | nil => exact following_of_eq_some (judgmentAfter?_of_isRotated hnodup hround h)
  | cons next before ih =>
    have hnext : following (order ++ rest) c = next :=
      following_of_eq_some (judgmentAfter?_of_isRotated hnodup hround h)
    have hturned : order ~r (next :: (before ++ j :: (later ++ [c]))) := h.trans ⟨1, by simp⟩
    rw [List.length_cons, Function.iterate_succ_apply, hnext]
    exact ih hturned

/-- From a judgment of the order on, each of its judgments is come to before the order is through. -/
theorem exists_iterate_of_mem (hc : c ∈ order) (hj : j ∈ order) :
    ∃ k < order.length, (following (order ++ rest))^[k] c = j := by
  obtain ⟨before, later, rfl⟩ := List.append_of_mem hc
  have hturned : (before ++ c :: later) ~r (c :: (later ++ before)) := ⟨before.length, by simp⟩
  rcases List.mem_cons.1 (hturned.perm.mem_iff.1 hj) with rfl | hother
  · exact ⟨0, List.length_pos_of_mem hj, rfl⟩
  · obtain ⟨between, others, hsplit⟩ := List.append_of_mem hother
    refine ⟨between.length + 1, ?_, exists_iterate_following hnodup hround between (hsplit ▸ hturned)⟩
    have hlength := congrArg List.length hsplit
    simp only [List.length_append, List.length_cons] at hlength ⊢
    omega

end Round

/-- In a list that comes round, each value is come to from any judgment, listed or not. -/
theorem ComesRound.reaches (h : ComesRound judgments) (c : Judgment) (hj : j ∈ judgments) :
    ∃ k ≤ judgments.length, (following judgments)^[k] c = j := by
  obtain ⟨order, rest, rfl, hnodup, hsubset, hround⟩ := h
  have hmem : ∀ i ∈ order ++ rest, i ∈ order := fun i hi => (List.mem_append.1 hi).elim id fun hr => hsubset hr
  have hle : order.length ≤ (order ++ rest).length := by simp
  by_cases hc : c ∈ order ++ rest
  · obtain ⟨k, hk, he⟩ := exists_iterate_of_mem hnodup hround (hmem c hc) (hmem j hj)
    exact ⟨k, by omega, he⟩
  -- a judgment that is not listed is followed by the first one
  · obtain ⟨first, hfirst⟩ : ∃ first, (order ++ rest).head? = some first :=
      ⟨_, List.head?_eq_some_head (List.ne_nil_of_mem hj)⟩
    have hnext : following (order ++ rest) c = first :=
      following_of_eq_some ((judgmentAfter?_of_not_mem hc).trans hfirst)
    obtain ⟨k, hk, he⟩ :=
      exists_iterate_of_mem hnodup hround (hmem first (List.mem_of_head? hfirst)) (hmem j hj)
    exact ⟨k + 1, by omega, by rw [Function.iterate_succ_apply, hnext, he]⟩

/-! ## Going back before the end -/

/-- Unless all values are different, there is a first one that comes again. -/
theorem nodup_or_exists_repeated (judgments : List Judgment) : judgments.Nodup ∨
    ∃ before x between later, judgments = before ++ x :: between ++ x :: later ∧ (before ++ x :: between).Nodup := by
  induction judgments using List.reverseRecOn with
  | nil => exact Or.inl List.nodup_nil
  | append_singleton judgments last ih =>
    rcases ih with hnodup | ⟨before, x, between, later, rfl, hnodup⟩
    · by_cases hlast : last ∈ judgments
      · obtain ⟨before, between, rfl⟩ := List.append_of_mem hlast
        exact Or.inr ⟨before, last, between, [], rfl, hnodup⟩
      · exact Or.inl (List.concat_eq_append ▸ hnodup.concat hlast)
    · exact Or.inr ⟨before, x, between, later ++ [last], by simp, hnodup⟩

section Repeated

variable {before between later : List Judgment} {x : Judgment} (hnodup : (before ++ x :: between).Nodup)
include hnodup

/-- Between a value and its repetition there is no way out. -/
theorem following_mem_of_repeated (hc : c ∈ x :: between) :
    following (before ++ x :: between ++ x :: later) c ∈ x :: between := by
  obtain ⟨nearer, further, hsplit⟩ := List.append_of_mem hc
  have hfirst : c ∉ before ++ nearer := by
    rw [hsplit, ← List.append_assoc] at hnodup
    exact not_mem_of_nodup_middle hnodup
  have hlist : before ++ x :: between ++ x :: later = (before ++ nearer) ++ c :: (further ++ x :: later) := by
    rw [hsplit]
    simp
  rw [hlist]
  cases further with
  | nil =>
    rw [following_of_eq_some (judgmentAfter?_append hfirst)]
    exact List.mem_cons_self
  | cons next further =>
    rw [following_of_eq_some (judgmentAfter?_append hfirst), hsplit]
    exact List.mem_append_right nearer (List.mem_cons_of_mem c List.mem_cons_self)

theorem iterate_following_mem (k : Nat) (hc : c ∈ x :: between) :
    (following (before ++ x :: between ++ x :: later))^[k] c ∈ x :: between := by
  induction k generalizing c with
  | zero => exact hc
  | succ k ih =>
    rw [Function.iterate_succ_apply]
    exact ih (following_mem_of_repeated hnodup hc)

end Repeated

/-- In a list that does not come round, there is a value that is never come to from some other. -/
theorem exists_unreached (h : ¬ComesRound judgments) :
    ∃ c ∈ judgments, ∃ j ∈ judgments, ∀ k, (following judgments)^[k] c ≠ j := by
  rcases nodup_or_exists_repeated judgments with hnodup | ⟨before, x, between, later, rfl, hnodup⟩
  · exact absurd (comesRound_of_nodup hnodup) h
  -- from `x` on, nothing is come to but what stands between it and its repetition
  suffices hout : ∃ j ∈ before ++ x :: between ++ x :: later, j ∉ x :: between by
    obtain ⟨j, hj, hout⟩ := hout
    exact ⟨x, by simp, j, hj, fun k he => hout (he ▸ iterate_following_mem hnodup k List.mem_cons_self)⟩
  cases before with
  | cons first before =>
    have hfirst : first ∉ x :: between := fun hmem =>
      (List.nodup_cons.1 hnodup).1 (List.mem_append_right before hmem)
    exact ⟨first, by simp, hfirst⟩
  | nil =>
    by_contra hnone
    have hwithin : x :: later ⊆ x :: between := fun j hj => by
      by_contra hout
      exact hnone ⟨j, List.mem_append_right (x :: between) hj, hout⟩
    exact h ⟨x :: between, x :: later, rfl, hnodup, hwithin, fun j hj => hj⟩

end LoopSurvey.Judgment
