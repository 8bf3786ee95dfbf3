import LoopSurvey.Proofs.Session.Repeat
import LoopSurvey.Proofs.Viewer.Core
import LoopSurvey.Proofs.Viewer.Cursor
import LoopSurvey.Viewer.Press
/-!
# The viewer shows what was found

A viewer shows what searches have come to when their result is active, all its nodes have rows and the cursor
of the tree pane is on the node under the cursor of the result (`Viewer.Shows`). A search steps to a node that
has a row, or presents its hits and goes to the first one; either way the viewer shows what all searches have
come to (`Shows.runSearch`).
-/

namespace LoopSurvey.Viewer

variable {v v' : Viewer} {o : Outline} {scope : SearchScope} {searched : List String}

@[simp] theorem session_runSearch (v : Viewer) (keyword : String) :
    (v.runSearch keyword).session = (v.session.search keyword v.scope).1 := by
  obtain ⟨tree, outbox, he⟩ := v.runSearch_eq keyword
  rw [he]

/-- A viewer shows what searches in an outline have come to: their result is active, all its nodes have rows,
and the cursor of the tree pane is on that of the result. -/
structure Shows (v : Viewer) (o : Outline) (scope : SearchScope) (searched : List String) : Prop where
  alike : o.Alike v.session.outline
  results_eq : v.session.results = o.found scope searched ∨ searched = [] ∧ v.session.results.nodes = []
  visible : ∀ id ∈ v.session.results.nodes, v.session.outline.isVisible id = true
  rows_eq : v.session.results.nodes ≠ [] → v.tree.rows = v.session.outline.rows
  selected_eq : v.session.results.nodes ≠ [] → v.tree.selected? = v.session.results.current?

theorem Shows.congr (h : v.Shows o scope searched) (hs : v'.session = v.session)
    (ht : v'.tree = v.tree) : v'.Shows o scope searched := by
  constructor <;> rw [hs]
  · exact h.alike
  · exact h.results_eq
  · exact h.visible
  · rw [ht]
    exact h.rows_eq
  · rw [ht]
    exact h.selected_eq

theorem shows_of_nil (halike : o.Alike v.session.outline) (hnil : v.session.results.nodes = [])
    (h : v.session.results = o.found scope searched ∨ searched = []) : v.Shows o scope searched where
  alike := halike
  results_eq := h.imp_right fun hs => ⟨hs, hnil⟩
  visible id hid := by
    rw [hnil] at hid
    cases hid
  rows_eq hne := absurd hnil hne
  selected_eq hne := absurd hnil hne

/-- Stepping through the result moves the cursor of the tree pane along. -/
theorem tree_of_advanced (h : v.Shows o scope searched) {node : NodeId}
    (hnode : v.session.results.advance.current? = some node) :
    (v.tree.focus v.session.outline node).rows = v.session.outline.rows ∧
      (v.tree.focus v.session.outline node).selected? = some node := by
  have hmem : node ∈ v.session.results.nodes := by
    rw [← Session.nodes_advance]
    exact List.mem_of_getElem? hnode
  have hrows : v.tree.rows = v.session.outline.rows := h.rows_eq (List.ne_nil_of_mem hmem)
  refine ⟨hrows ▸ v.tree.rows_focus _ node, TreePane.selected?_focus _ ?_⟩
  rw [hrows]
  exact Outline.mem_rows_iff.2 (h.visible node hmem)

theorem tree_of_scanned {keyword k : String} {s : Session} {presented : Presented} {first : NodeId}
    (h : v.session.search keyword v.scope = (s, .scanned k scope presented))
    (hfirst : presented.first = some first) :
    (v.runSearch keyword).tree = (v.tree.refresh s.outline).focus s.outline first := by
  unfold runSearch applyOutcome
  rw [h]
  dsimp only
  rw [hfirst]
  rfl

/-- The hits of a search have rows, and the cursor of the tree pane goes to the first one. -/
theorem tree_of_searchAnew {keyword k : String}
    (h : v.session.search keyword v.scope = v.session.searchAnew k v.scope)
    (hhits : v.session.outline.hits k v.scope ≠ []) :
    (v.runSearch keyword).tree.rows = (v.session.searchAnew k v.scope).1.outline.rows ∧
    (v.runSearch keyword).tree.selected? = (v.session.searchAnew k v.scope).1.results.nodes.head? := by
  obtain ⟨presented, first, hscanned, hfirst, hhead⟩ := Session.exists_first_searchAnew hhits
  have hsearch : v.session.search keyword v.scope =
      ((v.session.searchAnew k v.scope).1, .scanned k v.scope presented) := by rw [h, ← hscanned]
  have htree := tree_of_scanned hsearch hfirst
  have hresults := v.session.results_searchAnew k v.scope
  rw [if_neg hhits] at hresults
  have hhit : first ∈ v.session.outline.hits k v.scope := by
    have hmem := List.mem_of_head? hhead
    rw [hresults] at hmem
    exact Outline.mem_sortByLine.1 hmem
  rw [htree, hhead, TreePane.rows_focus, TreePane.rows_refresh]
  refine ⟨rfl, TreePane.selected?_focus _ ?_⟩
  rw [TreePane.rows_refresh]
  exact Outline.mem_rows_iff.2 (Session.isVisible_searchAnew hhit)

/-- One more search. -/
theorem Shows.runSearch (h : v.Shows o scope searched) (hscope : v.scope = scope) (keyword : String) :
    (v.runSearch keyword).Shows o scope (Text.lower keyword :: searched) := by
  subst hscope
  have hsession := v.session_runSearch keyword
  have halike : o.Alike (v.runSearch keyword).session.outline := by
    rw [hsession]
    exact h.alike.trans (v.session.alike_search keyword v.scope)
  have hresults : (v.runSearch keyword).session.results = o.found v.scope (Text.lower keyword :: searched) := by
    rw [hsession]
    exact Session.results_search_found h.alike h.results_eq keyword
  rcases v.session.search_cases keyword v.scope with ⟨-, he⟩ | ⟨-, hne, -, node, he⟩ | ⟨-, -, he⟩
  · refine shows_of_nil halike ?_ (Or.inl hresults)
    rw [hsession, he]
    rfl
  · have hnode := Session.current?_of_advanced (congrArg Prod.snd he)
    have hrun : v.runSearch keyword =
        ({ v with session := { v.session with results := v.session.results.advance } }).focus node := by
      unfold Viewer.runSearch
      rw [he]
      rfl
    obtain ⟨hrows, hselected⟩ := tree_of_advanced h hnode
    refine ⟨halike, Or.inl hresults, ?_, fun _ => ?_, fun _ => ?_⟩
    · rw [hrun]
      intro id hid
      exact h.visible id (Session.nodes_advance _ ▸ hid)
    · rw [hrun]
      exact hrows
    · rw [hrun]
      exact hselected.trans hnode.symm
  · have hafter : (v.runSearch keyword).session = (v.session.searchAnew (Text.lower keyword) v.scope).1 :=
      hsession.trans (congrArg Prod.fst he)
    have hanew := v.session.results_searchAnew (Text.lower keyword) v.scope
    rw [← hafter] at hanew
    by_cases hhits : v.session.outline.hits (Text.lower keyword) v.scope = []
    · rw [if_pos hhits] at hanew
      exact shows_of_nil halike (by rw [hanew]) (Or.inl hresults)
    · rw [if_neg hhits] at hanew
      obtain ⟨hrows, hselected⟩ := tree_of_searchAnew he hhits
      rw [← hafter] at hrows hselected
      refine ⟨halike, Or.inl hresults, fun id hid => ?_, fun _ => hrows, fun _ => ?_⟩
      · rw [hanew] at hid
        rw [hafter]
        exact Session.isVisible_searchAnew (Outline.mem_sortByLine.1 hid)
      · rw [hselected, hanew, List.head?_eq_getElem?]
        rfl

end LoopSurvey.Viewer
