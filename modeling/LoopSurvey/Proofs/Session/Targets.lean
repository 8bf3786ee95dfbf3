import LoopSurvey.Proofs.Session.Reveal
import LoopSurvey.Proofs.Session.Steady
/-!
# The targets in order

Making a session ready sorts the listed targets that are in the outline by line key. Line keys look at payloads
alone, which nothing changes, and sorting what is sorted changes nothing (`Outline.sortByLine_sortByLine`): so a
jump to the targets presents them in the order taken at first, however often the session has been searched, edited
or expanded since (`jumpToTargets_proceed`).
-/

namespace LoopSurvey.Session

variable {s : Session} {hits : List NodeId}

/-- Presenting a list whose nodes are all in the outline makes it the active result, sorted by line key. -/
theorem results_presentAll (hne : hits ≠ []) (hmem : ∀ id ∈ hits, id ∈ s.outline.ids) (keyword : String) :
    (s.presentAll keyword hits).1.results = { keyword, nodes := s.outline.sortByLine hits } := by
  have hall : hits.filter s.outline.contains = hits :=
    List.filter_eq_self.2 fun id hid => Outline.contains_iff.2 (hmem id hid)
  rcases s.present_cases keyword (s.ancestorsOf hits) hits with ⟨hnil, -⟩ | ⟨-, he⟩
  · exact absurd (hall.symm.trans hnil) hne
  · rw [presentAll, he, hall]

/-- The nodes that are presented are selected in addition. -/
theorem mem_selected_presentAll {id : NodeId} (keyword : String) (hits : List NodeId) :
    id ∈ (s.presentAll keyword hits).1.outline.selected ↔
      id ∈ s.outline.selected ∨ id ∈ hits ∧ id ∈ s.outline.ids := by
  have hmem : id ∈ hits.filter s.outline.contains ↔ id ∈ hits ∧ id ∈ s.outline.ids := by
    rw [List.mem_filter, Outline.contains_iff]
  rcases s.present_cases keyword (s.ancestorsOf hits) hits with ⟨hnil, he⟩ | ⟨-, he⟩
  · rw [presentAll, he, ← hmem, hnil]
    simp
  · rw [presentAll, he, Outline.mem_selected_select, Outline.selected_setOpened, Outline.ids_setOpened, hmem,
      and_assoc, and_self]

/-! ## The jump to the targets -/

theorem targetOrder_makeReady (s : Session) :
    s.makeReady.1.targetOrder = s.outline.sortByLine (s.tables.targets.filter s.outline.contains) := by
  unfold makeReady
  dsimp only
  split <;> rfl

theorem jumpToTargets_of_nil (h : s.targetOrder = []) : s.jumpToTargets = (s, none) := by
  simp [jumpToTargets, h]

theorem jumpToTargets_of_ne_nil (h : s.targetOrder ≠ []) :
    s.jumpToTargets =
      ((s.clearResults.1.presentAll "" s.targetOrder).1, some (s.clearResults.1.presentAll "" s.targetOrder).2) := by
  simp [jumpToTargets, h]

/-- Targets in order are in the outline. -/
theorem Ordered.mem_ids (h : s.Ordered) {id : NodeId} (hid : id ∈ s.targetOrder) :
    id ∈ s.clearResults.1.outline.ids := by
  rw [← s.alike_clearResults.ids]
  exact (h.mem_targetOrder.1 hid).2

/-- Sorted anew in any outline with the same line keys, targets in order stay as they are. -/
theorem Ordered.sortByLine_targetOrder (h : s.Ordered) :
    s.clearResults.1.outline.sortByLine s.targetOrder = s.targetOrder := by
  rw [← s.alike_clearResults.sortByLine, ordered_iff.1 h, Outline.sortByLine_sortByLine]

theorem Ordered.results_jumpToTargets (h : s.Ordered) (hne : s.targetOrder ≠ []) :
    s.jumpToTargets.1.results = { keyword := "", nodes := s.targetOrder } := by
  rw [jumpToTargets_of_ne_nil hne, results_presentAll hne fun _ => h.mem_ids, h.sortByLine_targetOrder]

theorem Ordered.isVisible_jumpToTargets (h : s.Ordered) {id : NodeId} (hid : id ∈ s.targetOrder) :
    s.jumpToTargets.1.outline.isVisible id = true := by
  rw [jumpToTargets_of_ne_nil (List.ne_nil_of_mem hid)]
  exact isVisible_presentAll hid (h.mem_ids hid)

/-- The jump selects the targets, and deselects the nodes of the result before that are none. -/
theorem Ordered.mem_selected_jumpToTargets (h : s.Ordered) (hne : s.targetOrder ≠ []) {id : NodeId} :
    id ∈ s.jumpToTargets.1.outline.selected ↔
      id ∈ s.targetOrder ∨ id ∈ s.outline.selected ∧ id ∉ s.results.nodes := by
  rw [jumpToTargets_of_ne_nil hne, mem_selected_presentAll, clearResults_eq, Outline.mem_selected_deselect]
  constructor
  · rintro (hkept | ⟨htarget, -⟩)
    · exact Or.inr hkept
    · exact Or.inl htarget
  · rintro (htarget | hkept)
    · exact Or.inr ⟨htarget, h.mem_ids htarget⟩
    · exact Or.inl hkept

/-- **The order of the targets is settled once.** Made ready, a session has the listed targets that are in its
outline in the stable order of their line keys. Whatever is done with it afterwards, this order stays as it is, and
a jump to the targets makes exactly this list the active result, without a keyword and with the cursor on the first
one. All targets are visible and selected then, and a node of the result before stays selected only if it is a
target. -/
theorem jumpToTargets_proceed (s : Session) (steps : List Step) :
    let order := s.makeReady.1.targetOrder
    let t := s.makeReady.1.proceed steps
    s.outline.SortedByLine (s.tables.targets.filter s.outline.contains) order ∧
    t.targetOrder = order ∧
    (order = [] → t.jumpToTargets = (t, none)) ∧
    (order ≠ [] → ∃ u presented, t.jumpToTargets = (u, some presented) ∧
      u.results = { keyword := "", nodes := order, cursor := 0 } ∧
      (∀ id ∈ order, u.outline.isVisible id = true) ∧
      ∀ id, id ∈ u.outline.selected ↔ id ∈ order ∨ id ∈ t.outline.selected ∧ id ∉ t.results.nodes) := by
  intro order t
  have hready : s.makeReady.1.Ordered := s.ordered_makeReady
  obtain ⟨ht, horder⟩ : t.Ordered ∧ t.targetOrder = order :=
    (s.makeReady.1.moves_proceed steps).targetOrder hready
  have hsorted : order = s.outline.sortByLine (s.tables.targets.filter s.outline.contains) := s.targetOrder_makeReady
  refine ⟨hsorted ▸ s.outline.sortedByLine_sortByLine _, horder, fun hnil => ?_, fun hne => ?_⟩
  · exact jumpToTargets_of_nil (horder.trans hnil)
  · have hne' : t.targetOrder ≠ [] := horder ▸ hne
    refine ⟨_, _, jumpToTargets_of_ne_nil hne', ?_⟩
    have hjump := congrArg Prod.fst (jumpToTargets_of_ne_nil hne')
    dsimp only at hjump
    rw [← hjump, ← horder]
    exact ⟨ht.results_jumpToTargets hne', fun id hid => ht.isVisible_jumpToTargets hid,
      fun id => ht.mem_selected_jumpToTargets hne'⟩

end LoopSurvey.Session
