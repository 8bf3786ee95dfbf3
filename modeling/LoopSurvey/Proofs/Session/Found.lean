import LoopSurvey.Proofs.Session.Search
/-!
# Results and scopes

The active result of a keyword is found in a scope if it consists of the hits of the keyword there
(`Session.FoundIn`). An operation that searches in that scope alone and changes no comment
(`Operation.Within`) leaves an active result that is found in the scope, or it leaves the nodes and the keyword
of the one before in an outline that searches read as they did (`operate_within`, `Outline.ReadsAs`).
-/

namespace LoopSurvey

namespace Outline

variable {o o' o'' : Outline}

/-! ## Outlines that searches read alike -/

/-- Keywords have the same hits in two outlines, and the hits sort alike. -/
structure ReadsAs (o o' : Outline) : Prop where
  hits_eq : ∀ keyword scope, o'.hits keyword scope = o.hits keyword scope
  sortByLine_eq : ∀ ids, o'.sortByLine ids = o.sortByLine ids

theorem ReadsAs.refl (o : Outline) : o.ReadsAs o := ⟨fun _ _ => rfl, fun _ => rfl⟩

theorem Alike.readsAs (h : o.Alike o') : o.ReadsAs o' where
  hits_eq keyword scope := (h.hits keyword scope).symm
  sortByLine_eq ids := (h.sortByLine ids).symm

/-- Searches read identifiers, payloads and comments, and nothing else. -/
theorem readsAs_of_map {f : Node → Node} (h : o'.forest = o.forest.map f) (hid : ∀ n, (f n).id = n.id)
    (hpayload : ∀ n, (f n).payload = n.payload)
    (hcomment : ∀ n, (f n).label.comment = n.label.comment) : o.ReadsAs o' where
  hits_eq keyword scope := by
    have hhit : (Node.Hit keyword scope · : Node → Prop) ∘ f = Node.Hit keyword scope := by
      funext n
      simp only [Function.comp_apply, Node.Hit, hpayload, hcomment]
    have hkeep : Node.id ∘ f = Node.id := funext hid
    unfold hits
    rw [nodes_of_map h, List.filter_map, List.map_map, hkeep]
    refine congrArg (List.map Node.id) (List.filter_congr fun n _ => ?_)
    exact decide_eq_decide.2 (iff_of_eq (congrFun hhit n))
  sortByLine_eq ids := by
    have hkey : ∀ id, o'.lineKey? id = o.lineKey? id := fun id => by
      rw [lineKey?, locate?_of_map h hid, Option.map_map]
      exact Option.map_congr fun p _ => p.lineKey_map hpayload
    simp only [sortByLine, hkey]

/-- Edits that leave the comments alone leave alone what searches read. -/
theorem readsAs_make (o : Outline) {c : Change} (h : ∀ text, c ≠ .comment text) (ids : List NodeId) :
    o.ReadsAs (c.make o ids) := by
  have hupdate : ∀ f : Label → Label, (∀ l, (f l).comment = l.comment) → o.ReadsAs (o.updateLabel ids f) := by
    intro f hf
    refine readsAs_of_map rfl (fun _ => rfl) (fun _ => rfl) fun n => ?_
    dsimp only
    split
    · exact hf n.label
    · rfl
  cases c with
  | judge j => exact hupdate (·.judge j) fun _ => rfl
  | setLevel level => exact hupdate (·.withLevel level) fun _ => rfl
  | comment text => exact absurd rfl (h text)
  | check checked => exact readsAs_of_map rfl (fun _ => rfl) (fun _ => rfl) fun _ => rfl
  | setOpened opened => exact readsAs_of_map rfl (fun _ => rfl) (fun _ => rfl) fun _ => rfl

end Outline

namespace Session

/-- An operation searches in a scope alone, and changes no comment. -/
def Operation.Within (scope : SearchScope) : Operation → Prop
  | .search _ sc => sc = scope
  | .changeScope keyword sc => keyword ≠ "" ∧ sc = scope
  | .edit e => ∀ text, e.change ≠ .comment text
  | _ => True

/-- The active result consists of the hits of its keyword in a scope, if it is that of a keyword. -/
def FoundIn (s : Session) (scope : SearchScope) : Prop :=
  s.results.nodes ≠ [] → s.results.keyword ≠ "" →
    s.results.nodes = s.outline.sortByLine (s.outline.hits s.results.keyword scope)

/-- The active result is the same but for its cursor, and searches read the outline as before. -/
structure Keeps (s s' : Session) : Prop where
  nodes_eq : s'.results.nodes = s.results.nodes
  keyword_eq : s'.results.keyword = s.results.keyword
  readsAs : s.outline.ReadsAs s'.outline

variable {s s' : Session} {scope : SearchScope}

theorem Keeps.refl (s : Session) : s.Keeps s := ⟨rfl, rfl, .refl _⟩

theorem FoundIn.keeps (h : s.FoundIn scope) (hk : s.Keeps s') : s'.FoundIn scope := by
  intro hn hkeyword
  rw [hk.keyword_eq, hk.readsAs.hits_eq, hk.readsAs.sortByLine_eq, hk.nodes_eq]
  exact h (hk.nodes_eq ▸ hn) (hk.keyword_eq ▸ hkeyword)

theorem foundIn_of_nil (h : s.results.nodes = []) : s.FoundIn scope := fun hn => absurd h hn

theorem foundIn_of_empty (h : s.results.keyword = "") : s.FoundIn scope := fun _ hk => absurd h hk

/-! ## The operations one by one -/

theorem keeps_of_alike (s : Session) {o : Outline} (h : s.outline.Alike o) : s.Keeps (s.withOutline o) :=
  ⟨rfl, rfl, h.readsAs⟩

/-- Looking through the outline finds its hits. -/
theorem foundIn_searchAnew (s : Session) (keyword : String) (scope : SearchScope) :
    (s.searchAnew keyword scope).1.FoundIn scope := by
  have hreads : s.outline.ReadsAs (s.searchAnew keyword scope).1.outline := (s.alike_searchAnew keyword scope).readsAs
  have hresults := s.results_searchAnew keyword scope
  split_ifs at hresults
  · exact foundIn_of_nil (by rw [hresults])
  · intro _ _
    rw [hreads.hits_eq, hreads.sortByLine_eq, hresults]

theorem keyword_advance (r : Results) : r.advance.keyword = r.keyword := by
  unfold Results.advance
  split <;> rfl

theorem nodes_retreat (r : Results) : r.retreat.nodes = r.nodes := by
  unfold Results.retreat
  split <;> rfl

theorem keyword_retreat (r : Results) : r.retreat.keyword = r.keyword := by
  unfold Results.retreat
  split <;> rfl

theorem keeps_next (s : Session) : s.Keeps s.next.1 :=
  ⟨nodes_advance s.results, keyword_advance s.results, .refl _⟩

theorem keeps_previous (s : Session) : s.Keeps s.previous.1 :=
  ⟨nodes_retreat s.results, keyword_retreat s.results, .refl _⟩

theorem search_within (s : Session) (keyword : String) (scope : SearchScope) :
    (s.search keyword scope).1.FoundIn scope ∨ s.Keeps (s.search keyword scope).1 := by
  rcases s.search_cases keyword scope with ⟨-, he⟩ | ⟨-, -, -, node, he⟩ | ⟨-, -, he⟩
  · rw [he]
    exact Or.inl (foundIn_of_nil rfl)
  · rw [he]
    exact Or.inr s.keeps_next
  · rw [he]
    exact Or.inl (s.foundIn_searchAnew _ scope)

/-- A search that steps does so through a result, and does nothing else. -/
theorem search_eq_of_isAdvanced {keyword : String} (h : (s.search keyword scope).2.IsAdvanced) :
    s.results.nodes ≠ [] ∧ ∃ node, s.search keyword scope =
      ({ s with results := s.results.advance }, .advanced s.results.advance.cursor node) := by
  obtain ⟨cursor, node, hadvanced⟩ := h
  rcases s.search_cases keyword scope with ⟨-, he⟩ | ⟨-, hne, -, he⟩ | ⟨-, -, he⟩
  · rw [he] at hadvanced
    cases hadvanced
  · exact ⟨hne, he⟩
  · rw [he] at hadvanced
    cases hadvanced

/-- Where there is no result, no search steps. -/
theorem not_isAdvanced_clearResults (s : Session) (keyword : String) (scope : SearchScope) :
    ¬(s.clearResults.1.search keyword scope).2.IsAdvanced :=
  fun h => (search_eq_of_isAdvanced h).1 rfl

theorem changeScope_of_ne (s : Session) {keyword : String} (h : keyword ≠ "") (scope : SearchScope) :
    s.changeScope keyword scope =
      ((s.clearResults.1.search keyword scope).1, some (s.clearResults.1.search keyword scope).2) := by
  unfold changeScope
  rw [if_neg h]

/-- A keyword is searched for anew in another scope. -/
theorem foundIn_changeScope (s : Session) {keyword : String} (h : keyword ≠ "") (scope : SearchScope) :
    (s.changeScope keyword scope).1.FoundIn scope := by
  rw [s.changeScope_of_ne h]
  rcases s.clearResults.1.search_within keyword scope with hfound | hkeeps
  · exact hfound
  · exact foundIn_of_nil hkeeps.nodes_eq

/-- What is presented without a keyword is found in no scope. -/
theorem presentAll_within (s : Session) (ids : List NodeId) (scope : SearchScope) :
    (s.presentAll "" ids).1.FoundIn scope ∨ s.Keeps (s.presentAll "" ids).1 := by
  unfold presentAll
  rcases s.present_cases "" (s.ancestorsOf ids) ids with ⟨-, he⟩ | ⟨-, he⟩
  · rw [he]
    exact Or.inr (.refl s)
  · rw [he]
    exact Or.inl (foundIn_of_empty rfl)

/-- Where there is no result, what is presented without a keyword is the first. -/
theorem foundIn_presentAnew (s : Session) (ids : List NodeId) (scope : SearchScope) :
    (s.clearResults.1.presentAll "" ids).1.FoundIn scope := by
  rcases s.clearResults.1.presentAll_within ids scope with hfound | hkeeps
  · exact hfound
  · exact foundIn_of_nil hkeeps.nodes_eq

theorem calleeChoice_within (s : Session) (id : NodeId) (scope : SearchScope) :
    (s.calleeChoice id).1.FoundIn scope ∨ s.Keeps (s.calleeChoice id).1 := by
  rcases s.calleeChoice_cases id with he | he
  · rw [he]
    exact Or.inr (.refl s)
  · rw [he]
    exact Or.inl (foundIn_of_nil rfl)

theorem jumpToCandidates_within (s : Session) (id : NodeId) (candidates : List NodeId) (scope : SearchScope) :
    (s.jumpToCandidates id candidates).1.FoundIn scope ∨ s.Keeps (s.jumpToCandidates id candidates).1 := by
  obtain ⟨history, hv⟩ := s.visit_eq id
  unfold jumpToCandidates
  rw [hv]
  rcases presentAll_within { s with history } candidates scope with hfound | hkeeps
  · exact Or.inl hfound
  · exact Or.inr ⟨hkeeps.nodes_eq, hkeeps.keyword_eq, hkeeps.readsAs⟩

theorem jumpToCallee_within (s : Session) (id : NodeId) (scope : SearchScope) :
    (s.jumpToCallee id).1.FoundIn scope ∨ s.Keeps (s.jumpToCallee id).1 := by
  rcases s.jumpToCallee_cases id with ⟨callee, candidates, -, he⟩ | ⟨-, he⟩
  · rw [he]
    rcases s.clearResults.1.jumpToCandidates_within id candidates scope with hfound | hkeeps
    · exact Or.inl hfound
    · exact Or.inl (foundIn_of_nil hkeeps.nodes_eq)
  · rw [he]
    exact s.calleeChoice_within id scope

theorem edit_within (s : Session) {e : Edit} (h : ∀ text, e.change ≠ .comment text) : s.Keeps (s.operate (.edit e)) := by
  rcases s.operate_edit_cases e with he | ⟨affected, he⟩
  · rw [he]
    exact .refl s
  · rw [he]
    exact ⟨rfl, rfl, s.outline.readsAs_make h affected⟩

/-- **What an operation leaves**: an active result that is found in the scope of the operation, or the one
before, in an outline that searches read as they did. -/
theorem operate_within (s : Session) {op : Operation} (h : op.Within scope) :
    (s.operate op).FoundIn scope ∨ s.Keeps (s.operate op) := by
  cases op with
  | search keyword sc =>
    obtain rfl : sc = scope := h
    exact s.search_within keyword sc
  | changeScope keyword sc =>
    obtain ⟨hk, rfl⟩ := h
    exact Or.inl (s.foundIn_changeScope hk sc)
  | clearResults => exact Or.inl (foundIn_of_nil rfl)
  | next => exact Or.inr s.keeps_next
  | previous => exact Or.inr s.keeps_previous
  | calleeChoice node => exact s.calleeChoice_within node scope
  | jumpToCallee node => exact s.jumpToCallee_within node scope
  | makeReady =>
    obtain ⟨targetOrder, history, he⟩ := s.makeReady_eq
    refine Or.inr ?_
    rw [operate, he]
    exact ⟨rfl, rfl, .refl _⟩
  | jumpToTargets =>
    rw [operate]
    rcases s.jumpToTargets_cases with he | he <;> rw [he]
    · exact Or.inr (.refl s)
    · exact Or.inl (s.foundIn_presentAnew s.targetOrder scope)
  | jumpTo nodes =>
    rw [operate]
    rcases s.jumpTo_cases nodes with he | he <;> rw [he]
    · exact Or.inr (.refl s)
    · exact Or.inl (s.foundIn_presentAnew nodes scope)
  | remember node => exact Or.inr ⟨rfl, rfl, .refl _⟩
  | edit e => exact Or.inr (s.edit_within h)
  | expandAll node => exact Or.inr (s.keeps_of_alike (s.outline.alike_expandAll node))
  | collapseAll node => exact Or.inr (s.keeps_of_alike (s.outline.alike_collapseAll node))
  | expandLoops node flag => exact Or.inr (s.keeps_of_alike (s.outline.alike_expandLoops node flag))

end Session

end LoopSurvey
