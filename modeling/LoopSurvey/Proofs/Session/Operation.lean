import LoopSurvey.Proofs.Outline.Mapping
import LoopSurvey.Session.Edit
import LoopSurvey.Session.Jump
import LoopSurvey.Session.Search
/-!
# Operations on a session

The operations of searching, jumping, editing and expanding as data (`Session.Operation`), their runs
(`Session.run`), and for each function behind them the cases it comes down to: a search clears, advances
or looks through the outline anew (`search_cases`), a presented list either has no node of the outline or
becomes the active result (`present_cases`), a refused edit changes nothing (`edit_of_error`) and an accepted one the
outline alone (`edit_eq_ok`).
-/

namespace LoopSurvey

namespace Results

theorem advance_of_ne_nil {r : Results} (h : r.nodes ≠ []) :
    r.advance = { r with cursor := (r.cursor + 1) % r.nodes.length } := by
  simp [advance, isEmpty, h]

theorem retreat_of_ne_nil {r : Results} (h : r.nodes ≠ []) :
    r.retreat =
      { r with cursor := if r.cursor = 0 then r.nodes.length - 1 else r.cursor - 1 } := by
  simp [retreat, isEmpty, h]

/-- A step changes the cursor alone. -/
theorem exists_advance_eq (r : Results) : ∃ cursor, r.advance = { r with cursor } := by
  unfold advance
  split
  · exact ⟨r.cursor, rfl⟩
  · exact ⟨_, rfl⟩

theorem exists_retreat_eq (r : Results) : ∃ cursor, r.retreat = { r with cursor } := by
  unfold retreat
  split
  · exact ⟨r.cursor, rfl⟩
  · exact ⟨_, rfl⟩

/-- Where there are nodes, the next one is found whatever the cursor was. -/
theorem exists_current?_advance {r : Results} (h : r.nodes ≠ []) :
    ∃ node, r.advance.current? = some node := by
  have hlt : (r.cursor + 1) % r.nodes.length < r.nodes.length :=
    Nat.mod_lt _ (List.length_pos_iff.2 h)
  rw [advance_of_ne_nil h]
  exact ⟨_, List.getElem?_eq_getElem hlt⟩

theorem current?_advance_of_nil {r : Results} (h : r.nodes = []) : r.advance.current? = none := by
  simp [advance, isEmpty, current?, h]

end Results

/-- The label with another level chosen, where there is an estimation that has it. -/
def Label.withLevel (l : Label) (level : Nat) : Label :=
  { l with estimation := l.estimation.map fun e => (Estimation.at? level e.levels).getD e }

/-- Where a level is in range, to choose it is to replace the estimation. -/
theorem Label.setEstimation_choose {l : Label} {e : Estimation} {level : Nat} (he : l.estimation = some e)
    (h : e.contains level = true) : l.setEstimation (e.choose level h) = l.withLevel level := by
  have hlevel : level < e.levels := of_decide_eq_true h
  rw [setEstimation, withLevel, he, Option.map_some, Estimation.at?, dif_pos hlevel]
  rfl

/-- The outline after a change to the listed nodes. -/
def Change.make (c : Change) (o : Outline) (ids : List NodeId) : Outline :=
  match c with
  | .judge j => o.updateLabel ids (·.judge j)
  | .setLevel level => o.updateLabel ids (·.withLevel level)
  | .comment text => o.updateLabel ids (·.setComment text)
  | .check checked => o.setChecked ids checked
  | .setOpened opened => o.setOpened ids opened

namespace Session

/-- What can be done with a session. -/
inductive Operation
  | search (keyword : String) (scope : SearchScope)
  | changeScope (keyword : String) (scope : SearchScope)
  | clearResults
  | next
  | previous
  | calleeChoice (node : NodeId)
  | jumpToCallee (node : NodeId)
  | makeReady
  | jumpToTargets
  | jumpTo (nodes : List NodeId)
  /-- Puts a node on the history, in the outline or not. -/
  | remember (node : NodeId)
  | edit (e : Edit)
  | expandAll (node : NodeId)
  | collapseAll (node : NodeId)
  | expandLoops (node : NodeId) (flag : LoopFlag)

/-- The session after an operation. -/
def operate (s : Session) : Operation → Session
  | .search keyword scope => (s.search keyword scope).1
  | .changeScope keyword scope => (s.changeScope keyword scope).1
  | .clearResults => s.clearResults.1
  | .next => s.next.1
  | .previous => s.previous.1
  | .calleeChoice node => (s.calleeChoice node).1
  | .jumpToCallee node => (s.jumpToCallee node).1
  | .makeReady => s.makeReady.1
  | .jumpToTargets => s.jumpToTargets.1
  | .jumpTo nodes => (s.jumpTo nodes).1
  | .remember node => { s with history := s.history.push node }
  | .edit e => (s.edit e).1
  | .expandAll node => s.withOutline (s.outline.expandAll node).1
  | .collapseAll node => s.withOutline (s.outline.collapseAll node).1
  | .expandLoops node flag => s.withOutline (s.outline.expandLoops node flag).1

/-- The session after operations. -/
def run (s : Session) (operations : List Operation) : Session := operations.foldl operate s

/-! ## The cases of each operation -/

section Cases

variable {s s' : Session}

theorem next_eq (s : Session) :
    s.next = ({ s with results := s.results.advance }, s.results.advance.current?) := rfl

theorem previous_eq (s : Session) :
    s.previous = ({ s with results := s.results.retreat }, s.results.retreat.current?) := rfl

@[simp] theorem results_clearResults (s : Session) : s.clearResults.1.results = {} := rfl

theorem clearResults_eq (s : Session) :
    s.clearResults.1 =
      { s with outline := s.outline.setSelected s.results.nodes false, results := {} } := rfl

/-- A presented list without a node of the outline changes nothing; otherwise its nodes in the outline,
sorted, become the active result. -/
theorem present_cases (s : Session) (keyword : String) (ancestors hits : List NodeId) :
    (hits.filter s.outline.contains = [] ∧ s.present keyword ancestors hits = (s, {})) ∨
    (hits.filter s.outline.contains ≠ [] ∧ (s.present keyword ancestors hits).1 =
      { s with
        outline := (s.outline.setOpened (s.closedAmong ancestors) true).setSelected
          (hits.filter s.outline.contains) true
        results := { keyword, nodes := s.outline.sortByLine (hits.filter s.outline.contains) } }) := by
  unfold present
  split
  · next h => exact Or.inl ⟨h, rfl⟩
  · next found h => exact Or.inr ⟨h, rfl⟩

/-- Looking through the outline presents what matches in the session without results. -/
theorem searchAnew_eq (s : Session) (keyword : String) (scope : SearchScope) :
    s.searchAnew keyword scope =
      let hits := (s.clearResults.1.outline.nodes.filter (·.matches keyword scope)).map Node.id
      let presented := ({ s.clearResults.1 with scans := s.scans + 1 }).presentAll keyword hits
      (presented.1, .scanned keyword scope presented.2) := rfl

/-- A search clears the result, advances in it, or looks through the outline. -/
theorem search_cases (s : Session) (keyword : String) (scope : SearchScope) :
    (Text.lower keyword = "" ∧
      s.search keyword scope = (s.clearResults.1, .cleared s.results.nodes)) ∨
    (Text.lower keyword ≠ "" ∧ s.results.nodes ≠ [] ∧ s.results.keyword = Text.lower keyword ∧
      ∃ node, s.search keyword scope =
        ({ s with results := s.results.advance }, .advanced s.results.advance.cursor node)) ∨
    (Text.lower keyword ≠ "" ∧ ¬(s.results.nodes ≠ [] ∧ s.results.keyword = Text.lower keyword) ∧
      s.search keyword scope = s.searchAnew (Text.lower keyword) scope) := by
  unfold search
  by_cases he : Text.lower keyword = ""
  · exact Or.inl ⟨he, by rw [if_pos he]; rfl⟩
  · refine Or.inr ?_
    simp only [if_neg he, next_eq]
    by_cases hk : Text.lower keyword = s.results.keyword
    · rw [if_pos hk]
      by_cases hn : s.results.nodes = []
      · rw [Results.current?_advance_of_nil hn]
        exact Or.inr ⟨he, fun h => h.1 hn, rfl⟩
      · obtain ⟨node, hnode⟩ := Results.exists_current?_advance hn
        rw [hnode]
        exact Or.inl ⟨he, hn, hk.symm, node, rfl⟩
    · rw [if_neg hk]
      exact Or.inr ⟨he, fun h => hk h.2.symm, rfl⟩

theorem changeScope_cases (s : Session) (keyword : String) (scope : SearchScope) :
    s.changeScope keyword scope = (s, none) ∨
    s.changeScope keyword scope =
      ((s.clearResults.1.search keyword scope).1,
        some (s.clearResults.1.search keyword scope).2) := by
  unfold changeScope
  split
  · exact Or.inl rfl
  · exact Or.inr rfl

/-- Activating a node drops the result at most; with candidates to ask about it has been dropped. -/
theorem calleeChoice_cases (s : Session) (id : NodeId) :
    s.calleeChoice id = (s, .openSource) ∨ (s.calleeChoice id).1 = s.clearResults.1 := by
  unfold calleeChoice
  split
  · exact Or.inl rfl
  · split
    · exact Or.inl rfl
    · exact Or.inr rfl

/-- Only activating a leaf does anything. -/
theorem isLeaf_of_calleeChoice {id : NodeId} (h : s.calleeChoice id ≠ (s, .openSource)) :
    ∃ p, s.outline.locate? id = some p ∧ p.isLeaf = true := by
  unfold calleeChoice at h
  split at h
  · exact absurd rfl h
  · next p hp =>
    split at h
    · exact absurd rfl h
    · next hleaf => exact ⟨p, hp, by simpa using hleaf⟩

/-- There is no active result where candidates are asked about. -/
theorem results_of_ask {id : NodeId} {callee : String} {candidates : List NodeId}
    (h : s.calleeChoice id = (s', .ask callee candidates)) : s'.results = {} := by
  rcases s.calleeChoice_cases id with he | he
  · rw [he] at h
    cases h
  · rw [h] at he
    dsimp only at he
    rw [he, results_clearResults]

theorem jumpToCallee_cases (s : Session) (id : NodeId) :
    (∃ callee candidates, s.calleeChoice id = (s.clearResults.1, .ask callee candidates) ∧
      (s.jumpToCallee id).1 = (s.clearResults.1.jumpToCandidates id candidates).1) ∨
    ((s.calleeChoice id).2 = .openSource ∧ (s.jumpToCallee id).1 = (s.calleeChoice id).1) := by
  have hcases := s.calleeChoice_cases id
  unfold jumpToCallee
  generalize s.calleeChoice id = choice at hcases ⊢
  obtain ⟨s', callee⟩ := choice
  cases callee with
  | ask callee candidates =>
    rcases hcases with h | rfl
    · cases h
    · exact Or.inl ⟨callee, candidates, rfl, rfl⟩
  | openSource => exact Or.inr ⟨rfl, rfl⟩

theorem jumpToCallee_of_ask {id : NodeId} {callee : String} {candidates : List NodeId}
    (h : s.calleeChoice id = (s', .ask callee candidates)) :
    s.jumpToCallee id =
      ((s'.jumpToCandidates id candidates).1, some (s'.jumpToCandidates id candidates).2) := by
  unfold jumpToCallee
  rw [h]

theorem jumpToTargets_cases (s : Session) :
    s.jumpToTargets = (s, none) ∨
    s.jumpToTargets.1 = (s.clearResults.1.presentAll "" s.targetOrder).1 := by
  unfold jumpToTargets
  split
  · exact Or.inl rfl
  · exact Or.inr rfl

theorem jumpTo_cases (s : Session) (ids : List NodeId) :
    s.jumpTo ids = (s, none) ∨ (s.jumpTo ids).1 = (s.clearResults.1.presentAll "" ids).1 := by
  unfold jumpTo
  split
  · exact Or.inl rfl
  · exact Or.inr rfl

/-- Remembering a visit changes the history alone. -/
theorem visit_eq (s : Session) (id : NodeId) : ∃ history, s.visit id = { s with history } := by
  unfold visit
  split
  · exact ⟨_, rfl⟩
  · exact ⟨s.history, rfl⟩

/-- Making a session ready changes the order of the targets and the history alone. -/
theorem makeReady_eq (s : Session) :
    ∃ targetOrder history, s.makeReady.1 = { s with targetOrder, history } := by
  unfold makeReady
  simp only [orderTargets]
  split
  · exact ⟨_, s.history, rfl⟩
  · exact ⟨_, _, rfl⟩

/-- To choose a level of a node of the outline is to choose it for all nodes with its identifier. -/
theorem updateLabel_choose {n : Node} {est : Estimation} {level : Nat} (hn : n ∈ s.outline.nodes)
    (he : n.label.estimation = some est) (h : est.contains level = true) :
    s.outline.updateLabel [n.id] (·.setEstimation (est.choose level h)) =
      (Change.setLevel level).make s.outline [n.id] := by
  refine Outline.ext_forest (Forest.map_congr fun m hm => ?_)
  dsimp only
  by_cases hid : m.id ∈ [n.id]
  · obtain rfl : m = n := Outline.eq_of_id_eq hm hn (List.mem_singleton.1 hid)
    rw [if_pos hid, if_pos hid, Label.setEstimation_choose he h]
  · rw [if_neg hid, if_neg hid]

/-- A refused change changes nothing. -/
theorem applyChange_of_error {n : Node} {c : Change} {reason : EditError} (h : (s.applyChange n c).2 = .error reason) :
    (s.applyChange n c).1 = s := by
  cases c with
  | setLevel level =>
    unfold applyChange at h ⊢
    cases hest : n.label.estimation with
    | none => rfl
    | some e =>
      simp only [hest] at h ⊢
      split
      · next hlevel =>
        rw [dif_pos hlevel] at h
        cases h
      · rfl
  | _ => cases h

/-- An accepted change is made to the nodes it affects: a judgment to those it reaches, any other to its node alone. -/
theorem applyChange_ok {n : Node} {c : Change} {affected : List NodeId} (hn : n ∈ s.outline.nodes)
    (h : s.applyChange n c = (s', .ok affected)) :
    s' = s.withOutline (c.make s.outline affected) ∧
      ((∃ j, c = .judge j) ∧ affected = s.judgmentReach n ∨ affected = [n.id]) := by
  cases c with
  | judge j =>
    cases h
    exact ⟨rfl, Or.inl ⟨⟨j, rfl⟩, rfl⟩⟩
  | setLevel level =>
    unfold applyChange at h
    cases hest : n.label.estimation with
    | none =>
      simp only [hest] at h
      cases h
    | some e =>
      simp only [hest] at h
      split at h
      · next hlevel =>
        cases h
        exact ⟨by rw [updateLabel_choose hn hest hlevel], Or.inr rfl⟩
      · cases h
  | _ =>
    cases h
    exact ⟨rfl, Or.inr rfl⟩

/-- A refused edit changes nothing. -/
theorem edit_of_error {e : Edit} {reason : EditError} (h : (s.edit e).2 = .error reason) : (s.edit e).1 = s := by
  unfold edit at h ⊢
  split
  · rfl
  · next n hn =>
    simp only [hn] at h
    split
    · next s' reason' hc =>
      have hrefused : (s.applyChange n e.change).2 = .error reason' := by rw [hc]
      have hsame := applyChange_of_error hrefused
      rwa [hc] at hsame
    · next hc =>
      rw [hc] at h
      cases h

/-- An edit is refused or accepted. -/
theorem edit_cases (s : Session) (e : Edit) :
    (∃ reason, s.edit e = (s, .error reason)) ∨ ∃ s' touched, s.edit e = (s', .ok touched) := by
  rcases he : s.edit e with ⟨s', reason | touched⟩
  · have hsame : (s.edit e).1 = s := edit_of_error (congrArg Prod.snd he)
    rw [he] at hsame
    exact Or.inl ⟨reason, Prod.ext hsame rfl⟩
  · exact Or.inr ⟨s', touched, rfl⟩

/-- An accepted edit is an accepted change of its node, of which the visible nodes are told. -/
theorem edit_ok {e : Edit} {touched : Touched} (h : s.edit e = (s', .ok touched)) :
    ∃ n, s.outline.node? e.node = some n ∧ s.applyChange n e.change = (s', .ok touched.affected) ∧
      touched.visible = touched.affected.filter s'.outline.isVisible := by
  unfold edit at h
  split at h
  · cases h
  · next n hn =>
    split at h
    · cases h
    · next o affected ho =>
      cases h
      exact ⟨n, hn, ho, rfl⟩

/-- An accepted edit makes its change to the nodes it affected, and changes nothing else. -/
theorem edit_eq_ok {e : Edit} {touched : Touched} (h : s.edit e = (s', .ok touched)) :
    s' = s.withOutline (e.change.make s.outline touched.affected) := by
  obtain ⟨n, hn, hc, -⟩ := edit_ok h
  exact (applyChange_ok (Outline.node?_eq_some_iff.1 hn).1 hc).1

/-- What an edit leaves: the session as it was, or with the change made to some nodes of its outline. -/
theorem operate_edit_cases (s : Session) (e : Edit) : s.operate (.edit e) = s ∨
    ∃ affected, s.operate (.edit e) = s.withOutline (e.change.make s.outline affected) := by
  rcases s.edit_cases e with ⟨reason, he⟩ | ⟨s', touched, he⟩
  · exact Or.inl (congrArg Prod.fst he)
  · exact Or.inr ⟨touched.affected, (congrArg Prod.fst he).trans (edit_eq_ok he)⟩

end Cases

end Session

end LoopSurvey
