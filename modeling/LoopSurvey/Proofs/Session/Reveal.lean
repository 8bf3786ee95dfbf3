import LoopSurvey.Proofs.Outline.Visibility
import LoopSurvey.Proofs.Session.Search
/-!
# What is presented is visible

Presenting nodes opens what is closed among their ancestors, so all of them are visible afterwards
(`Session.isVisible_presentAll`), and the node it tells as the first one heads the active result
(`Session.first_presentAll`). So do the hits that a search comes to (`Session.isVisible_searchAnew`), and the
node that a search steps to is the one under the cursor (`Session.current?_of_advanced`).
-/

namespace LoopSurvey

namespace Outline

variable {o : Outline}

theorem sortByLine_ne_nil {ids : List NodeId} (h : ids ≠ []) : o.sortByLine ids ≠ [] :=
  mt sortByLine_eq_nil_iff.1 h

end Outline

namespace Session

variable {s : Session} {keyword : String} {scope : SearchScope} {hits : List NodeId} {id : NodeId}

/-! ## Presenting -/

theorem mem_ancestorsOf {a : NodeId} (hid : id ∈ hits) (h : a ∈ s.outline.parentsOf id) :
    a ∈ s.ancestorsOf hits := by
  obtain ⟨p, hp, rfl, ha⟩ := Outline.exists_place_of_mem h
  exact List.mem_flatMap.2 ⟨p, List.mem_filterMap.2 ⟨p.id, hid, Outline.locate?_of_mem hp⟩, ha⟩

theorem mem_closedAmong_iff {ids : List NodeId} :
    id ∈ s.closedAmong ids ↔ id ∈ ids ∧ ∃ n ∈ s.outline.nodes, n.id = id ∧ n.state.opened = false := by
  rw [closedAmong, List.mem_filter, List.mem_eraseDups, Option.any_eq_true]
  simp only [Outline.node?_eq_some_iff, and_assoc, Bool.not_eq_true']

/-- Of the nodes there are, those are meant that are listed and closed. -/
theorem mem_closedAmong_of_mem {ids : List NodeId} {n : Node} (hn : n ∈ s.outline.nodes) :
    n.id ∈ s.closedAmong ids ↔ n.id ∈ ids ∧ n.state.opened = false := by
  rw [mem_closedAmong_iff]
  refine and_congr_right fun _ => ⟨fun ⟨m, hm, hid, hclosed⟩ => ?_, fun hclosed => ⟨n, hn, rfl, hclosed⟩⟩
  rwa [← Outline.eq_of_id_eq hm hn hid]

/-- The nodes that are presented are visible. -/
theorem isVisible_presentAll (hid : id ∈ hits) (hmem : id ∈ s.outline.ids) :
    (s.presentAll keyword hits).1.outline.isVisible id = true := by
  have hfound : id ∈ hits.filter s.outline.contains := List.mem_filter.2 ⟨hid, Outline.contains_iff.2 hmem⟩
  rcases s.present_cases keyword (s.ancestorsOf hits) hits with ⟨hnil, -⟩ | ⟨-, he⟩
  · rw [hnil] at hfound
    cases hfound
  · rw [presentAll, he]
    refine Outline.isVisible_setSelected (Outline.isVisible_setOpened hmem fun n hn hparent hclosed => ?_)
    exact (mem_closedAmong_of_mem hn).2 ⟨mem_ancestorsOf hid hparent, hclosed⟩

/-- The first of the presented nodes heads the result. -/
theorem first_presentAll (h : ∃ id ∈ hits, id ∈ s.outline.ids) :
    (s.presentAll keyword hits).2.first = (s.presentAll keyword hits).1.results.nodes.head? := by
  obtain ⟨id, hid, hmem⟩ := h
  have hfound : id ∈ hits.filter s.outline.contains := List.mem_filter.2 ⟨hid, Outline.contains_iff.2 hmem⟩
  unfold presentAll present
  split
  · next hnil =>
    rw [hnil] at hfound
    cases hfound
  · rfl

/-- Either none of the nodes is in the outline and nothing happens, or there is a result and a first one is told. -/
theorem presentAll_cases (s : Session) (keyword : String) (hits : List NodeId) :
    ((∀ id ∈ hits, id ∉ s.outline.ids) ∧ s.presentAll keyword hits = (s, {})) ∨
    ((∃ first, (s.presentAll keyword hits).2.first = some first) ∧
      (s.presentAll keyword hits).1.results.nodes ≠ []) := by
  rcases s.present_cases keyword (s.ancestorsOf hits) hits with ⟨hnil, he⟩ | ⟨hne, he⟩
  · refine Or.inl ⟨fun id hid hmem => ?_, he⟩
    exact List.not_mem_nil (hnil ▸ List.mem_filter.2 ⟨hid, Outline.contains_iff.2 hmem⟩)
  · obtain ⟨id, hid⟩ := List.exists_mem_of_ne_nil _ hne
    obtain ⟨hmem, hfound⟩ := List.mem_filter.1 hid
    have hnodes : (s.presentAll keyword hits).1.results.nodes ≠ [] := by
      rw [presentAll, he]
      exact List.ne_nil_of_mem (Outline.mem_sortByLine.2 hid)
    refine Or.inr ⟨?_, hnodes⟩
    rw [first_presentAll ⟨id, hmem, Outline.contains_iff.1 hfound⟩]
    exact ⟨_, List.head?_eq_some_head hnodes⟩

/-! ## Searching -/

/-- Looking through the outline presents the hits in the session without results. -/
theorem searchAnew_eq_presentAll : s.searchAnew keyword scope =
    ((s.cleared.presentAll keyword (s.outline.hits keyword scope)).1,
      .scanned keyword scope (s.cleared.presentAll keyword (s.outline.hits keyword scope)).2) := by
  rw [s.alike_cleared.hits, ← Outline.hits_eq]
  rfl

/-- The hits of a search are visible. -/
theorem isVisible_searchAnew (h : id ∈ s.outline.hits keyword scope) :
    (s.searchAnew keyword scope).1.outline.isVisible id = true := by
  rw [searchAnew_eq_presentAll]
  exact isVisible_presentAll h (s.alike_cleared.ids ▸ Outline.hits_subset_ids h)

/-- The search tells the first of the hits. -/
theorem exists_first_searchAnew (h : s.outline.hits keyword scope ≠ []) :
    ∃ presented first, (s.searchAnew keyword scope).2 = .scanned keyword scope presented ∧
      presented.first = some first ∧ (s.searchAnew keyword scope).1.results.nodes.head? = some first := by
  have hne : (s.searchAnew keyword scope).1.results.nodes ≠ [] := by
    rw [results_searchAnew, if_neg h]
    exact Outline.sortByLine_ne_nil h
  obtain ⟨id, hid⟩ := List.exists_mem_of_ne_nil _ h
  have hfirst : (s.cleared.presentAll keyword (s.outline.hits keyword scope)).2.first =
      (s.searchAnew keyword scope).1.results.nodes.head? := by
    rw [searchAnew_eq_presentAll]
    exact first_presentAll ⟨id, hid, s.alike_cleared.ids ▸ Outline.hits_subset_ids hid⟩
  have hhead := List.head?_eq_some_head hne
  exact ⟨_, _, congrArg Prod.snd searchAnew_eq_presentAll, hfirst.trans hhead, hhead⟩

/-- The node that a search steps to is the one under the cursor. -/
theorem current?_of_advanced {cursor : Nat} {node : NodeId}
    (h : (s.search keyword scope).2 = .advanced cursor node) : s.results.advance.current? = some node := by
  unfold search at h
  dsimp only at h
  split_ifs at h
  · simp only [next_eq] at h
    split at h
    · next s' node' hnext =>
      cases h
      exact (Prod.mk.inj hnext).2
    · cases h
  · cases h

end Session

end LoopSurvey
