import LoopSurvey.Proofs.Json.Reading
/-!
# The compact text of a value is read back

The compact text of a value may be read as another value, but for some kinds of values it is one of the same kind
(`Reader.ReadsBack`). An array is read item by item (`Reader.readsBack_array`). The members of an object come back
sorted by key. If each has a key of its own they are the same members in another order (`sortMembers_perm`), so what
is said of the members without regard to their order is true of what is read (`Reader.readsBack_object`).
-/

namespace LoopSurvey.Json

/-! ## Sorted members -/

theorem insertSorted_perm {key : String} {members : List (String × α)} (h : key ∉ members.map Prod.fst) (value : α) :
    (insertSorted key value members).Perm ((key, value) :: members) := by
  induction members with
  | nil => exact List.Perm.refl _
  | cons m members ih =>
    obtain ⟨key', value'⟩ := m
    rw [List.map_cons, List.mem_cons, not_or] at h
    rw [insertSorted]
    split
    · exact List.Perm.refl _
    · rw [if_neg h.1]
      exact ((ih h.2).cons _).trans (List.Perm.swap _ _ _)

theorem foldl_insertSorted_perm {members sorted : List (String × α)}
    (h : ((members ++ sorted).map Prod.fst).Nodup) :
    (members.foldl (fun sorted m => insertSorted m.1 m.2 sorted) sorted).Perm (members ++ sorted) := by
  induction members generalizing sorted with
  | nil => exact List.Perm.refl _
  | cons m members ih =>
    rw [List.cons_append, List.map_cons, List.nodup_cons, List.map_append, List.mem_append, not_or] at h
    have hinsert := insertSorted_perm h.1.2 m.2
    have hnodup : ((members ++ insertSorted m.1 m.2 sorted).map Prod.fst).Nodup := by
      refine (((hinsert.append_left members).trans List.perm_middle).map Prod.fst).nodup_iff.2 ?_
      rw [List.map_cons, List.nodup_cons, List.map_append, List.mem_append, not_or]
      exact ⟨h.1, List.map_append ▸ h.2⟩
    exact (ih hnodup).trans ((hinsert.append_left members).trans List.perm_middle)

/-- Members with keys of their own are the same members when they are sorted. -/
theorem sortMembers_perm {members : List (String × α)} (h : (members.map Prod.fst).Nodup) :
    (sortMembers members).Perm members := by
  have hperm : (sortMembers members).Perm (members ++ []) := foldl_insertSorted_perm (by rwa [List.append_nil])
  rwa [List.append_nil] at hperm

theorem compactItems_eq (items : List Json) : compactItems items = items.map compact := by
  induction items with
  | nil => rfl
  | cons item items ih => rw [compactItems, ih, List.map_cons]

theorem compactMembers_eq (members : List (String × Json)) :
    compactMembers members = members.map fun m => (m.1, m.2.compact) := by
  induction members with
  | nil => rfl
  | cons m members ih =>
    obtain ⟨key, value⟩ := m
    rw [compactMembers, ih, List.map_cons]

/-! ## Objects without regard to order -/

/-- An object whose members each have a key of their own and the right value, and that has all the keys it needs. -/
inductive IsObject (right : String → Json → Prop) (needed : List String) : Json → Prop
  | intro {members} : (members.map Prod.fst).Nodup → (∀ m ∈ members, right m.1 m.2) →
      (∀ key ∈ needed, key ∈ members.map Prod.fst) → IsObject right needed (.obj members)

namespace Reader

variable {depth : Nat}

/-- The compact text of a value is read as a value of some kind. -/
def ReadsBack (depth : Nat) (kind : Json → Prop) (j : Json) : Prop := ∃ j', Written depth j.compact j' ∧ kind j'

theorem value_null (cs : List Char) :
    value depth ('n' :: cs) = (do word "null".toList; pure .null : Reader Json) ('n' :: cs) := by
  rw [value, valueWith.eq_def, bind_of_ok (blanks_of_not_space rfl),
    bind_of_ok (show peek _ = .ok (some 'n', _) from rfl)]
  rfl

theorem written_null : Written depth "null" .null where
  begins := ⟨'n', _, rfl, rfl, by decide⟩
  reads rest _ := by
    have htext : "null".toList ++ rest = 'n' :: ("ull".toList ++ rest) := rfl
    rw [htext, value_null, ← htext, bind_of_ok (word_append "null".toList)]
    rfl

theorem readsBack_array {kind : α → Json → Prop} {xs : List α} {items : List Json}
    (h : List.Forall₂ (fun x j => ReadsBack depth (kind x) j) xs items) :
    ReadsBack (depth + 1) (fun j' => ∃ items', j' = .arr items' ∧ List.Forall₂ kind xs items') (.arr items) := by
  have hitems : ∃ items', List.Forall₂ (Written depth) (items.map compact) items' ∧ List.Forall₂ kind xs items' := by
    induction h with
    | nil => exact ⟨[], .nil, .nil⟩
    | cons hitem _ ih =>
      obtain ⟨j', hwritten, hkind⟩ := hitem
      obtain ⟨items', hall, hkinds⟩ := ih
      exact ⟨j' :: items', .cons hwritten hall, .cons hkind hkinds⟩
  obtain ⟨items', hwritten, hkinds⟩ := hitems
  refine ⟨.arr items', ?_, items', rfl, hkinds⟩
  rw [compact, compactItems_eq]
  exact written_array hwritten

/-- An object is read as an object with the same keys, each with a value that is right. -/
theorem readsBack_object {right : String → Json → Prop} {needed : List String} {j : Json}
    (h : IsObject right needed j) (hright : ∀ key value, right key value → ReadsBack depth (right key) value) :
    ReadsBack (depth + 1) (IsObject right needed) j := by
  obtain @⟨members, hnodup, hmembers, hneeded⟩ := h
  have hperm : (sortMembers (compactMembers members)).Perm (members.map fun m => (m.1, m.2.compact)) := by
    rw [compactMembers_eq]
    refine sortMembers_perm ?_
    rw [List.map_map]
    exact hnodup
  have hkeys : ((sortMembers (compactMembers members)).map Prod.fst).Perm (members.map Prod.fst) := by
    have := hperm.map Prod.fst
    rwa [List.map_map] at this
  have hread : ∀ texts : List (String × String), (∀ text ∈ texts, text ∈ members.map fun m => (m.1, m.2.compact)) →
      ∃ members', List.Forall₂ (WrittenMember depth) texts members' ∧ (∀ m ∈ members', right m.1 m.2) ∧
        members'.map Prod.fst = texts.map Prod.fst := by
    intro texts htexts
    induction texts with
    | nil => exact ⟨[], .nil, by simp, rfl⟩
    | cons text texts ih =>
      obtain ⟨htext, hrest⟩ := List.forall_mem_cons.1 htexts
      obtain ⟨m, hm, rfl⟩ := List.mem_map.1 htext
      obtain ⟨value, hwritten, hvalue⟩ := hright m.1 m.2 (hmembers m hm)
      obtain ⟨members', hall, hrights, hsame⟩ := ih hrest
      refine ⟨(m.1, value) :: members', .cons ⟨rfl, hwritten⟩ hall, List.forall_mem_cons.2 ⟨hvalue, hrights⟩, ?_⟩
      rw [List.map_cons, List.map_cons, hsame]
  obtain ⟨members', hwritten, hrights, hsame⟩ := hread _ fun text htext => hperm.mem_iff.1 htext
  refine ⟨.obj members', ?_, ⟨?_, hrights, fun key hkey => ?_⟩⟩
  · rw [compact]
    exact written_object hwritten
  · rw [hsame]
    exact hkeys.nodup_iff.2 hnodup
  · rw [hsame]
    exact hkeys.mem_iff.2 (hneeded key hkey)

end Reader

end LoopSurvey.Json
