import LoopSurvey.Proofs.Outline.LineOrder
import LoopSurvey.Proofs.Outline.Places
import LoopSurvey.Sample.Pair
/-!
# Line keys follow the nesting of scopes

The line key of a node is written down on the way up to the top. Read from the top down, the key of a child is
the key of its parent, with the line of the child at its end where the signature changes and in place of the
last line where it does not (`Place.lineKey_of_child`). So keys never go down along a way from an ancestor to
a node unless a child starts before a parent of its own signature, and they go up as soon as the signature
changes or the line grows (`LineKey.compare_stepsTo`).
-/

namespace LoopSurvey

namespace LineKey

/-! ## Keys and their ends -/

/-- The lines that a key starts from stay at its end. -/
theorem extend_append (signature : Option String × Option String) (front back : LineKey) (above : List Node) :
    extend signature (front ++ back) above = extend signature front above ++ back := by
  induction above generalizing signature front with
  | nil => rfl
  | cons a above ih =>
    simp only [extend, ← List.cons_append, ih]
    split <;> rfl

/-- A common beginning does not matter for the order. -/
theorem compare_append_left (key a b : LineKey) : compare (key ++ a) (key ++ b) = compare a b := by
  induction key with
  | nil => rfl
  | cons x xs ih =>
    rw [List.cons_append, List.cons_append, compare, Nat.compare_eq_eq.2 rfl, ih]
    rfl

/-- A key comes before those that go on from it. -/
theorem compare_append_self (key : LineKey) (line : Nat) : compare key (key ++ [line]) = .lt := by
  have h := compare_append_left key [] [line]
  rwa [List.append_nil] at h

/-- Keys that differ in their last lines alone are in the order of these. -/
theorem compare_concat (key : LineKey) (a b : Nat) : compare (key ++ [a]) (key ++ [b]) = Ord.compare a b := by
  rw [compare_append_left, compare, compare]
  cases Ord.compare a b <;> rfl

/-- The line key of a node below its ancestors, nearest first. -/
def under (n : Node) (above : List Node) : LineKey := extend n.signature [n.line] above

theorem under_eq (n : Node) (above : List Node) : under n above = extend n.signature [] above ++ [n.line] :=
  extend_append n.signature [] [n.line] above

/-- The key of a child, from that of its parent. -/
theorem under_cons (child parent : Node) (above : List Node) :
    under child (parent :: above) =
      if child.signature = parent.signature then (under parent above).dropLast ++ [child.line]
      else under parent above ++ [child.line] := by
  have hextend : under child (parent :: above) =
      if parent.signature = child.signature then extend child.signature [child.line] above
      else extend parent.signature ([parent.line] ++ [child.line]) above := rfl
  rw [hextend]
  by_cases h : child.signature = parent.signature
  · rw [if_pos h.symm, if_pos h, under_eq, List.dropLast_concat, h]
    exact extend_append parent.signature [] [child.line] above
  · rw [if_neg (Ne.symm h), if_neg h]
    exact extend_append parent.signature [parent.line] [child.line] above

/-! ## Steps up -/

/-- A step on the way up: a child and its parent. -/
structure Step where
  child : Node
  parent : Node

/-- The child has the signature of its parent and starts before it. -/
def Step.IsBackward (s : Step) : Prop := s.child.signature = s.parent.signature ∧ s.child.line < s.parent.line

/-- The child has another signature than its parent, or starts after it. -/
def Step.IsForward (s : Step) : Prop := s.child.signature ≠ s.parent.signature ∨ s.parent.line < s.child.line

instance : DecidablePred Step.IsBackward := fun s =>
  inferInstanceAs (Decidable (s.child.signature = s.parent.signature ∧ s.child.line < s.parent.line))

instance : DecidablePred Step.IsForward := fun s =>
  inferInstanceAs (Decidable (s.child.signature ≠ s.parent.signature ∨ s.parent.line < s.child.line))

/-- The steps from a node up to its ancestor with an identifier. -/
def stepsTo (ancestor : NodeId) (n : Node) : List Node → List Step
  | [] => []
  | parent :: above => ⟨n, parent⟩ :: if parent.id = ancestor then [] else stepsTo ancestor parent above

/-- One step. -/
theorem compare_step {child parent : Node} (above : List Node) (h : ¬(Step.mk child parent).IsBackward) :
    compare (under parent above) (under child (parent :: above)) ≠ .gt ∧
      ((Step.mk child parent).IsForward →
        compare (under parent above) (under child (parent :: above)) = .lt) := by
  rw [under_cons]
  by_cases hs : child.signature = parent.signature
  · have hle : parent.line ≤ child.line := Nat.le_of_not_lt fun hlt => h ⟨hs, hlt⟩
    rw [if_pos hs, under_eq, List.dropLast_concat, compare_concat]
    refine ⟨Nat.compare_ne_gt.2 hle, fun hforward => ?_⟩
    rcases hforward with hne | hlt
    · exact absurd hs hne
    · exact Nat.compare_eq_lt.2 hlt
  · rw [if_neg hs, compare_append_self]
    exact ⟨fun hgt => (nomatch hgt), fun _ => rfl⟩

/-- The way up to an ancestor. The nodes on it have other identifiers than the ancestor. -/
theorem compare_stepsTo {a : Node} {above : List Node} (n : Node) {between : List Node}
    (hne : ∀ b ∈ between, b.id ≠ a.id) (h : ∀ s ∈ stepsTo a.id n (between ++ a :: above), ¬s.IsBackward) :
    compare (under a above) (under n (between ++ a :: above)) ≠ .gt ∧
      ((∃ s ∈ stepsTo a.id n (between ++ a :: above), s.IsForward) →
        compare (under a above) (under n (between ++ a :: above)) = .lt) := by
  induction between generalizing n with
  | nil =>
    have hsteps : stepsTo a.id n ([] ++ a :: above) = [⟨n, a⟩] := by simp [stepsTo]
    rw [hsteps] at h ⊢
    simpa using compare_step above (h ⟨n, a⟩ List.mem_cons_self)
  | cons b between ih =>
    obtain ⟨hb, hbetween⟩ := List.forall_mem_cons.1 hne
    have hsteps : stepsTo a.id n ((b :: between) ++ a :: above) =
        ⟨n, b⟩ :: stepsTo a.id b (between ++ a :: above) := by
      rw [List.cons_append, stepsTo, if_neg hb]
    rw [hsteps] at h ⊢
    obtain ⟨hfirst, hrest⟩ := List.forall_mem_cons.1 h
    obtain ⟨hle, hlt⟩ := compare_step (between ++ a :: above) hfirst
    obtain ⟨hle', hlt'⟩ := ih b hbetween hrest
    simp only [compare_eq, ← Ordering.isLE_iff_ne_gt] at hle hlt hle' hlt' ⊢
    refine ⟨Std.TransCmp.isLE_trans hle' hle, fun hforward => ?_⟩
    obtain ⟨s, hs, hs'⟩ := hforward
    rcases List.mem_cons.1 hs with rfl | hs
    · exact Std.TransCmp.lt_of_isLE_of_lt hle' (hlt hs')
    · exact Std.TransCmp.lt_of_lt_of_isLE (hlt' ⟨s, hs, hs'⟩) hle

end LineKey

/-! ## Places of roots, children and ancestors -/

namespace Forest

variable {above : List α} {t : Forest α}

/-- A root has a place right below what its forest hangs from. -/
theorem exists_place_of_mem_roots {a : α} (above : List α) (h : a ∈ t.roots) :
    ∃ below, ⟨a, above, below⟩ ∈ t.placesBelow above := by
  induction t with
  | nil => cases h
  | cons b children rest _ ihr =>
    rcases List.mem_cons.1 h with rfl | h
    · exact ⟨children, List.mem_cons_self⟩
    · obtain ⟨below, hmem⟩ := ihr h
      exact ⟨below, List.mem_cons_of_mem _ (List.mem_append_right _ hmem)⟩

/-- Where no two nodes share a name, no two ancestors of a place do. -/
theorem nodup_map_above {q : Place α} (name : α → β) (hq : q ∈ t.placesBelow above)
    (h : ((above ++ t.preorder).map name).Nodup) : (q.above.map name).Nodup := by
  induction t generalizing above with
  | nil => cases hq
  | cons a children rest ihc ihr =>
    have hchildren : ((a :: above ++ children.preorder).map name).Nodup := by
      have hsub : (above ++ a :: children.preorder).Sublist (above ++ (cons a children rest).preorder) :=
        ((List.sublist_append_left _ _).cons_cons a).append_left above
      exact (List.perm_middle.map name).nodup_iff.1 (h.sublist (hsub.map name))
    have hrest : ((above ++ rest.preorder).map name).Nodup := by
      have hsub : (above ++ rest.preorder).Sublist (above ++ (cons a children rest).preorder) :=
        ((List.sublist_append_right _ _).cons a).append_left above
      exact h.sublist (hsub.map name)
    rcases List.mem_cons.1 hq with rfl | hq
    · exact h.sublist ((List.sublist_append_left _ _).map name)
    · rcases List.mem_append.1 hq with hq | hq
      · exact ihc hq hchildren
      · exact ihr hq hrest

end Forest

namespace Outline

variable {o : Outline} {p q : Place Node}

theorem above_of_mem_top (hp : p ∈ o.places) (h : p.id ∈ o.top) : p.above = [] := by
  obtain ⟨a, ha, hid⟩ := List.mem_map.1 h
  obtain ⟨below, hmem⟩ := Forest.exists_place_of_mem_roots [] ha
  rw [← place_eq_of_id_eq hmem hp hid]

theorem above_of_mem_children (hp : p ∈ o.places) (hq : q ∈ o.places) (h : q.id ∈ p.children) :
    q.above = p.node :: p.above := by
  obtain ⟨a, ha, hid⟩ := List.mem_map.1 h
  obtain ⟨below, hmem⟩ := Forest.exists_place_of_mem_roots (p.node :: p.above) ha
  rw [← place_eq_of_id_eq (Forest.placesBelow_trans hp hmem) hq hid]

/-- The ancestors of a node go on from each of them with the ancestors of that one. -/
theorem exists_between (hp : p ∈ o.places) (hq : q ∈ o.places) (h : p.id ∈ q.parents) :
    ∃ between, q.above = between ++ p.node :: p.above ∧ ∀ b ∈ between, b.id ≠ p.id := by
  obtain ⟨a, ha, hid⟩ := List.mem_map.1 h
  rcases Forest.mem_above_cases hq ha with hnil | ⟨p', hp', rfl, hbelow⟩
  · cases hnil
  · obtain rfl : p' = p := place_eq_of_id_eq hp' hp hid
    obtain ⟨between, he⟩ := Forest.suffix_above hbelow
    have hnodup : (q.above.map Node.id).Nodup := Forest.nodup_map_above Node.id hq o.nodup
    rw [← he, List.map_append, List.map_cons] at hnodup
    refine ⟨between, he.symm, fun b hb hsame => ?_⟩
    exact (List.nodup_append.1 hnodup).2.2 b.id (List.mem_map_of_mem hb) p'.id List.mem_cons_self hsame

end Outline

/-! ## Keys in an outline -/

/-- The key of a node at the top is its line. -/
theorem Place.lineKey_of_top {p : Place Node} (h : p.above = []) : p.lineKey = [p.node.line] := by
  rw [lineKey, h]
  rfl

/-- The key of a child is that of its parent with the line of the child, at the end or in place of the last. -/
theorem Place.lineKey_of_child {p q : Place Node} (h : q.above = p.node :: p.above) :
    q.lineKey =
      if q.node.signature = p.node.signature then p.lineKey.dropLast ++ [q.node.line]
      else p.lineKey ++ [q.node.line] := by
  rw [lineKey, h]
  exact LineKey.under_cons q.node p.node p.above

/-- The steps from a node up to its ancestor with an identifier. -/
def Place.stepsTo (q : Place Node) (ancestor : NodeId) : List LineKey.Step :=
  LineKey.stepsTo ancestor q.node q.above

/-- **Line keys follow the nesting of scopes.** The key of a node at the top is its line. The key of a child is
the key of its parent, with the line of the child added where the signature changes, and put in place of the
last line where it does not. So where no child on the way up to an ancestor starts before a parent of its own
signature, the key of the ancestor does not come after that of the node, and it comes before it as soon as
the signature changes or the line grows somewhere on the way. -/
theorem Outline.lineKey_scopes (o : Outline) :
    (∀ p ∈ o.places, p.id ∈ o.top → p.lineKey = [p.node.line]) ∧
    (∀ p ∈ o.places, ∀ q ∈ o.places, q.id ∈ p.children →
      q.lineKey =
        if q.node.signature = p.node.signature then p.lineKey.dropLast ++ [q.node.line]
        else p.lineKey ++ [q.node.line]) ∧
    (∀ p ∈ o.places, ∀ q ∈ o.places, p.id ∈ q.parents → (∀ s ∈ q.stepsTo p.id, ¬s.IsBackward) →
      LineKey.compare p.lineKey q.lineKey ≠ .gt ∧
        ((∃ s ∈ q.stepsTo p.id, s.IsForward) → LineKey.compare p.lineKey q.lineKey = .lt)) := by
  refine ⟨fun p hp htop => ?_, fun p hp q hq hchild => ?_, fun p hp q hq hparent hsteps => ?_⟩
  · exact Place.lineKey_of_top (above_of_mem_top hp htop)
  · exact Place.lineKey_of_child (above_of_mem_children hp hq hchild)
  · obtain ⟨between, habove, hne⟩ := exists_between hp hq hparent
    unfold Place.stepsTo at hsteps ⊢
    unfold Place.lineKey
    rw [habove] at hsteps ⊢
    exact LineKey.compare_stepsTo q.node hne hsteps

/-- The first loop has another signature than its routine, so its key comes after that of the routine. -/
theorem Outline.lineKey_scopes_pair :
    let routine := Sample.pairOutline.places[0]
    let first := Sample.pairOutline.places[1]
    routine.id ∈ first.parents ∧ (∀ s ∈ first.stepsTo routine.id, ¬s.IsBackward) ∧
    (∃ s ∈ first.stepsTo routine.id, s.IsForward) ∧ LineKey.compare routine.lineKey first.lineKey = .lt := by
  intro routine first
  have hparent : routine.id ∈ first.parents := List.mem_cons_self
  have hsteps : ∀ s ∈ first.stepsTo routine.id, ¬s.IsBackward := by decide
  have hforward : ∃ s ∈ first.stepsTo routine.id, s.IsForward := by decide
  have horder := (Sample.pairOutline.lineKey_scopes.2.2 routine (List.getElem_mem _) first
    (List.getElem_mem _) hparent hsteps).2 hforward
  exact ⟨hparent, hsteps, hforward, horder⟩

end LoopSurvey
