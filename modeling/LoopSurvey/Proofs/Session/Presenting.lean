import LoopSurvey.Proofs.Session.Reveal
/-!
# What presenting nodes changes

Presenting opens those of the listed ancestors that are in the outline and closed, and tells of each of them once, in
the order in which they first come up (`mem_closedAmong_iff`, `pairwise_closedAmong`). The hits that are in the outline
are selected and, sorted by line key, become the active result; hits of one key keep their order even where they are
repeated (`filter_sortByLine`). Nothing else of the session changes, and nothing at all where no hit is in the outline
(`present_effect`).
-/

namespace LoopSurvey

/-! ## Repetitions left out -/

section FirstOccurrences

variable {α : Type} [DecidableEq α]

/-- What first comes up earlier among the elements with a property, does so among all. -/
theorem idxOf_lt_of_idxOf_filter_lt {p : α → Bool} {a b : α} (ha : p a = true) (hb : p b = true) {l : List α}
    (h : (l.filter p).idxOf a < (l.filter p).idxOf b) : l.idxOf a < l.idxOf b := by
  induction l with
  | nil => exact absurd h (Nat.lt_irrefl _)
  | cons c l ih =>
    by_cases hc : p c = true
    · rw [List.filter_cons_of_pos hc] at h
      by_cases hca : c = a
      · subst hca
        by_cases hcb : c = b
        · subst hcb
          exact absurd h (Nat.lt_irrefl _)
        · rw [List.idxOf_cons_self, List.idxOf_cons_ne _ hcb]
          exact Nat.succ_pos _
      · by_cases hcb : c = b
        · subst hcb
          rw [List.idxOf_cons_self] at h
          exact absurd h (Nat.not_lt_zero _)
        · rw [List.idxOf_cons_ne _ hca, List.idxOf_cons_ne _ hcb] at h ⊢
          exact Nat.succ_lt_succ (ih (Nat.lt_of_succ_lt_succ h))
    · rw [List.filter_cons_of_neg hc] at h
      have hca : c ≠ a := fun he => hc (he ▸ ha)
      have hcb : c ≠ b := fun he => hc (he ▸ hb)
      rw [List.idxOf_cons_ne _ hca, List.idxOf_cons_ne _ hcb]
      exact Nat.succ_lt_succ (ih h)

/-- Without repetitions the elements are in the order in which they first come up. -/
theorem pairwise_idxOf_eraseDups : ∀ l : List α, l.eraseDups.Pairwise fun a b => l.idxOf a < l.idxOf b
  | [] => List.Pairwise.nil
  | c :: l => by
    have hother : ∀ a ∈ (l.filter fun b => !b == c).eraseDups, (!a == c) = true := fun a ha =>
      (List.mem_filter.1 (List.mem_eraseDups.1 ha)).2
    have hne : ∀ a ∈ (l.filter fun b => !b == c).eraseDups, c ≠ a := fun a ha he => by
      simpa [he] using hother a ha
    rw [List.eraseDups_cons]
    refine List.pairwise_cons.2 ⟨fun b hb => ?head, ?tail⟩
    case head =>
      rw [List.idxOf_cons_self, List.idxOf_cons_ne _ (hne b hb)]
      exact Nat.succ_pos _
    case tail =>
      refine (pairwise_idxOf_eraseDups (l.filter fun b => !b == c)).imp_of_mem fun {a b} ha hb hab => ?_
      rw [List.idxOf_cons_ne _ (hne a ha), List.idxOf_cons_ne _ (hne b hb)]
      exact Nat.succ_lt_succ (idxOf_lt_of_idxOf_filter_lt (p := fun b => !b == c) (hother a ha) (hother b hb) hab)
termination_by l => l.length
decreasing_by exact Nat.lt_succ_of_le (List.length_filter_le _ _)

end FirstOccurrences

namespace Session

variable {s : Session} {ids ancestors hits : List NodeId} {id : NodeId}

/-! ## Presenting -/

/-- The closed ancestors are told of in the order in which they first come up, so each of them once. -/
theorem pairwise_closedAmong (s : Session) (ids : List NodeId) :
    (s.closedAmong ids).Pairwise fun a b => ids.idxOf a < ids.idxOf b :=
  (pairwise_idxOf_eraseDups ids).filter _

theorem filter_contains (s : Session) (ids : List NodeId) :
    ids.filter s.outline.contains = ids.filter (· ∈ s.outline.ids) := by
  refine List.filter_congr fun id _ => ?_
  rw [Bool.eq_iff_iff, Outline.contains_iff, decide_eq_true_iff]

/-- Where there are hits in the outline, they are selected, what is closed of the ancestors is opened, and the sorted
hits are the active result. -/
theorem present_of_found (s : Session) (keyword : String) (ancestors : List NodeId)
    (h : hits.filter (· ∈ s.outline.ids) ≠ []) :
    let found := hits.filter (· ∈ s.outline.ids)
    let sorted := s.outline.sortByLine found
    s.present keyword ancestors hits =
      ({ s with
          outline := (s.outline.setOpened (s.closedAmong ancestors) true).setSelected found true
          results := { keyword, nodes := sorted } },
        { count := sorted.length, opened := s.closedAmong ancestors, first := sorted.head? }) := by
  unfold present
  split
  · next hnil => exact absurd (s.filter_contains hits ▸ hnil) h
  · rw [filter_contains]

/-- A node after some have been opened and some selected. -/
theorem node?_opened_selected (o : Outline) (opened selected : List NodeId) {n : Node} (hn : n ∈ o.nodes) :
    ((o.setOpened opened true).setSelected selected true).node? n.id = some { n with state := { n.state with
      opened := n.id ∈ opened || n.state.opened
      selected := n.id ∈ selected || n.state.selected } } := by
  simp only [Outline.setSelected, Outline.setOpened, Outline.updateState, Outline.node?_mapState,
    Outline.node?_of_mem hn, Option.map_some]
  by_cases ho : n.id ∈ opened <;> by_cases hs : n.id ∈ selected <;> simp [ho, hs]

/-- **What presenting nodes changes.** Without a hit in the outline nothing changes and there is nothing to tell.
Otherwise nothing changes but the outline and the active result. In the outline the nodes keep their places and all but
whether they are opened and selected: those that change in being opened are the listed ancestors that were closed, which
are told of in the order in which they first come up, and selected are those that were and the hits. The result is the
hits in the outline, in the order of their line keys and those of one key as they were listed, with the keyword and the
cursor on the first; told of are their number and the first one. -/
theorem present_effect (s : Session) (keyword : String) (ancestors hits : List NodeId) :
    let found := hits.filter (· ∈ s.outline.ids)
    let after := (s.present keyword ancestors hits).1
    let presented := (s.present keyword ancestors hits).2
    (found = [] → after = s ∧ presented = { count := 0, opened := [], first := none }) ∧
    (found ≠ [] →
      after = { s with outline := after.outline, results := after.results } ∧
      after.outline.forest.map Node.id = s.outline.forest.map Node.id ∧
      (∀ n ∈ s.outline.nodes, ∃ n', after.outline.node? n.id = some n' ∧
        n' = { n with state := { n.state with opened := n'.state.opened, selected := n'.state.selected } } ∧
        (n'.state.opened ≠ n.state.opened ↔ n.id ∈ ancestors ∧ n.state.opened = false) ∧
        (n'.state.selected = true ↔ n.state.selected = true ∨ n.id ∈ hits)) ∧
      (∀ id, id ∈ presented.opened ↔
        id ∈ ancestors ∧ ∃ n ∈ s.outline.nodes, n.id = id ∧ n.state.opened = false) ∧
      (presented.opened.Pairwise fun a b => ancestors.idxOf a < ancestors.idxOf b) ∧
      after.results.keyword = keyword ∧ after.results.cursor = 0 ∧
      s.outline.SortedByLine found after.results.nodes ∧
      (∀ key, after.results.nodes.filter (s.outline.lineKey? · = key) = found.filter (s.outline.lineKey? · = key)) ∧
      presented.count = after.results.nodes.length ∧ presented.first = after.results.nodes.head?) := by
  intro found after presented
  refine ⟨fun hnone => ?none, fun hfound => ?some⟩
  case none =>
    have he : s.present keyword ancestors hits = (s, {}) := by
      rcases s.present_cases keyword ancestors hits with ⟨-, he⟩ | ⟨hne, -⟩
      · exact he
      · exact absurd (s.filter_contains hits ▸ hnone) hne
    exact ⟨congrArg Prod.fst he, congrArg Prod.snd he⟩
  case some =>
    have he := s.present_of_found keyword ancestors hfound
    have hafter : after = _ := congrArg Prod.fst he
    have hpresented : presented = _ := congrArg Prod.snd he
    rw [hafter, hpresented]
    refine ⟨rfl, ?places, fun n hn => ⟨_, node?_opened_selected s.outline _ _ hn, rfl, ?opened, ?selected⟩,
      fun id => mem_closedAmong_iff, s.pairwise_closedAmong ancestors, rfl, rfl,
      s.outline.sortedByLine_sortByLine found, s.outline.filter_sortByLine found, rfl, rfl⟩
    case places =>
      simp only [Outline.setSelected, Outline.setOpened, Outline.updateState, Outline.mapState, Forest.map_map]
      rfl
    case opened =>
      rw [← mem_closedAmong_of_mem hn]
      by_cases hmem : n.id ∈ s.closedAmong ancestors
      · simp [hmem, (mem_closedAmong_of_mem hn).1 hmem]
      · simp [hmem]
    case selected =>
      have hmem : n.id ∈ found ↔ n.id ∈ hits := by
        rw [List.mem_filter, decide_eq_true_iff]
        exact and_iff_left (Outline.mem_ids.2 ⟨n, hn, rfl⟩)
      rw [Bool.or_eq_true, decide_eq_true_iff, hmem, or_comm]

end Session

end LoopSurvey
