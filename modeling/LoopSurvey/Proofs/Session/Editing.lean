import LoopSurvey.Proofs.Outline.Visibility
import LoopSurvey.Proofs.Session.Spreading
/-!
# What an edit changes

An edit is refused where its node is not in the outline, or where it chooses a level that the node does not have
(`edit_error_iff`, `applyChange_error_iff`), and then nothing changes. An accepted edit changes the nodes that it tells
of, and in these nothing but what it names (`Change.Frames`, `frames_apply`); everything else of the session stays as
it is (`edit_atomic`).
-/

namespace LoopSurvey

namespace Change

/-- The second node is the first one but for what a change names: the judgment with the mark, the level chosen out of
the same levels, the comment, whether it is checked, or whether it is opened. -/
def Frames (c : Change) (n n' : Node) : Prop :=
  match c with
  | .judge _ => n' = { n with label := { n.label with judgment := n'.label.judgment, mark := n'.label.mark } }
  | .setLevel _ =>
    n' = { n with label := { n.label with estimation := n'.label.estimation } } ∧
      n'.label.estimation.map Estimation.levels = n.label.estimation.map Estimation.levels
  | .comment _ => n' = { n with label := { n.label with comment := n'.label.comment } }
  | .check _ => n' = { n with state := { n.state with checked := n'.state.checked } }
  | .setOpened _ => n' = { n with state := { n.state with opened := n'.state.opened } }

theorem Frames.refl (c : Change) (n : Node) : c.Frames n n := by
  cases c with
  | setLevel level => exact ⟨rfl, rfl⟩
  | _ => rfl

/-- A change of a node changes nothing but what it names. -/
theorem frames_apply (c : Change) (n : Node) : c.Frames n (c.apply n) := by
  cases c with
  | setLevel level =>
    refine ⟨rfl, ?_⟩
    simp [apply, Label.withLevel, Function.comp_def, Label.levels_at?]
  | _ => rfl

/-- The nodes stay where they are. -/
theorem map_id_make (c : Change) (o : Outline) (ids : List NodeId) :
    (c.make o ids).forest.map Node.id = o.forest.map Node.id := by
  rw [c.forest_make, Forest.map_map]
  refine Forest.map_congr fun n _ => ?_
  dsimp only [Function.comp]
  split
  · exact c.id_apply n
  · rfl

end Change

namespace Session

variable {s s' : Session} {n : Node} {c : Change} {e : Edit} {reason : EditError} {touched : Touched}

/-! ## Refused edits -/

/-- Only to choose a level can be refused: where there is no estimation, or where it has no such level. -/
theorem applyChange_error_iff : (s.applyChange n c).2 = .error reason ↔ ∃ level, c = .setLevel level ∧
    ((n.label.estimation = none ∧ reason = .noEstimation n.id) ∨
      ∃ est, n.label.estimation = some est ∧ est.levels ≤ level ∧
        reason = .levelOutOfRange n.id level est.levels) := by
  cases c with
  | setLevel level =>
    cases hest : n.label.estimation with
    | none => simp [applyChange, hest, eq_comm]
    | some est =>
      by_cases hlevel : level < est.levels
      · simp [applyChange, hest, Estimation.contains, hlevel, Nat.not_le.2 hlevel]
      · simp [applyChange, hest, Estimation.contains, hlevel, Nat.not_lt.1 hlevel, eq_comm]
  | _ => simp [applyChange]

/-- An edit is refused where its node is missing, or where its change of the node is refused. -/
theorem edit_error_iff : (s.edit e).2 = .error reason ↔
    (e.node ∉ s.outline.ids ∧ reason = .notFound e.node) ∨
      ∃ n, s.outline.node? e.node = some n ∧ (s.applyChange n e.change).2 = .error reason := by
  unfold edit
  cases hn : s.outline.node? e.node with
  | none =>
    have hmissing : e.node ∉ s.outline.ids := Outline.node?_eq_none_iff.1 hn
    simp [hmissing, eq_comm]
  | some n =>
    have hthere : e.node ∈ s.outline.ids := Outline.mem_ids.2 ⟨n, Outline.node?_eq_some_iff.1 hn⟩
    rcases hc : s.applyChange n e.change with ⟨s', reason' | affected⟩ <;> simp [hthere, hc]

/-- What is the matter with an edit is about the node and the level that the edit names. -/
theorem edit_error_cases : (s.edit e).2 = .error reason ↔
    (e.node ∉ s.outline.ids ∧ reason = .notFound e.node) ∨
      ∃ n level, s.outline.node? e.node = some n ∧ e.change = .setLevel level ∧
        ((n.label.estimation = none ∧ reason = .noEstimation e.node) ∨
          ∃ est, n.label.estimation = some est ∧ est.levels ≤ level ∧
            reason = .levelOutOfRange e.node level est.levels) := by
  rw [edit_error_iff]
  refine or_congr_right ?_
  constructor
  · rintro ⟨n, hn, hc⟩
    obtain ⟨level, hlevel, hreason⟩ := applyChange_error_iff.1 hc
    rw [(Outline.node?_eq_some_iff.1 hn).2] at hreason
    exact ⟨n, level, hn, hlevel, hreason⟩
  · rintro ⟨n, level, hn, hlevel, hreason⟩
    rw [← (Outline.node?_eq_some_iff.1 hn).2] at hreason
    exact ⟨n, hn, applyChange_error_iff.2 ⟨level, hlevel, hreason⟩⟩

theorem edit_notFound_iff {id : NodeId} :
    (s.edit e).2 = .error (.notFound id) ↔ id = e.node ∧ e.node ∉ s.outline.ids := by
  simp [edit_error_cases, and_comm]

theorem edit_noEstimation_iff {id : NodeId} : (s.edit e).2 = .error (.noEstimation id) ↔ id = e.node ∧
    ∃ n level, s.outline.node? e.node = some n ∧ e.change = .setLevel level ∧ n.label.estimation = none := by
  rw [edit_error_cases]
  constructor
  · rintro (⟨-, hreason⟩ | ⟨n, level, hn, hlevel, ⟨hest, hreason⟩ | ⟨est, -, -, hreason⟩⟩)
    · cases hreason
    · cases hreason
      exact ⟨rfl, n, level, hn, hlevel, hest⟩
    · cases hreason
  · rintro ⟨rfl, n, level, hn, hlevel, hest⟩
    exact Or.inr ⟨n, level, hn, hlevel, Or.inl ⟨hest, rfl⟩⟩

theorem edit_levelOutOfRange_iff {id : NodeId} {level levels : Nat} :
    (s.edit e).2 = .error (.levelOutOfRange id level levels) ↔ id = e.node ∧
      ∃ n est, s.outline.node? e.node = some n ∧ e.change = .setLevel level ∧ n.label.estimation = some est ∧
        est.levels = levels ∧ levels ≤ level := by
  rw [edit_error_cases]
  constructor
  · rintro (⟨-, hreason⟩ | ⟨n, level', hn, hlevel, ⟨-, hreason⟩ | ⟨est, hest, hle, hreason⟩⟩)
    · cases hreason
    · cases hreason
    · cases hreason
      exact ⟨rfl, n, est, hn, hlevel, hest, rfl, hle⟩
  · rintro ⟨rfl, n, est, hn, hlevel, hest, rfl, hle⟩
    exact Or.inr ⟨n, level, hn, hlevel, Or.inr ⟨est, hest, hle, rfl⟩⟩

/-! ## Accepted edits -/

/-- An edit that is no judgment affects its node alone. -/
theorem affected_edit (h : s.edit e = (s', .ok touched)) (hjudge : ∀ j, e.change ≠ .judge j) :
    touched.affected = [e.node] := by
  obtain ⟨n, hn, hc, -⟩ := edit_ok h
  rcases (applyChange_ok (Outline.node?_eq_some_iff.1 hn).1 hc).2 with ⟨⟨j, hj⟩, -⟩ | haffected
  · exact absurd hj (hjudge j)
  · rw [haffected, (Outline.node?_eq_some_iff.1 hn).2]

theorem mem_ids_of_mem_affected (h : s.edit e = (s', .ok touched)) {id : NodeId} (hid : id ∈ touched.affected) :
    id ∈ s.outline.ids := by
  obtain ⟨n, hn, hc, -⟩ := edit_ok h
  have hmem : n ∈ s.outline.nodes := (Outline.node?_eq_some_iff.1 hn).1
  rcases (applyChange_ok hmem hc).2 with ⟨-, haffected⟩ | haffected <;> rw [haffected] at hid
  · exact mem_ids_of_mem_judgmentReach hmem hid
  · rw [List.mem_singleton.1 hid]
    exact Outline.mem_ids.2 ⟨n, hmem, rfl⟩

/-- Told to be visible are the affected nodes all of whose ancestors are opened afterwards. -/
theorem visible_edit (h : s.edit e = (s', .ok touched)) :
    touched.visible = touched.affected.filter fun id =>
      ∀ a ∈ s'.outline.nodes, a.id ∈ s'.outline.parentsOf id → a.state.opened = true := by
  have hids : s'.outline.ids = s.outline.ids := by
    rw [edit_eq_ok h, withOutline, Change.ids_make]
  obtain ⟨n, -, -, hvisible⟩ := edit_ok h
  rw [hvisible]
  refine List.filter_congr fun id hid => ?_
  have hthere : id ∈ s'.outline.ids := hids ▸ mem_ids_of_mem_affected h hid
  rw [Bool.eq_iff_iff, Outline.isVisible_iff, decide_eq_true_iff]
  exact and_iff_right hthere

/-- Of a node, an accepted edit changes what it names if it affects the node, and nothing otherwise. -/
theorem node?_edit (h : s.edit e = (s', .ok touched)) (hn : n ∈ s.outline.nodes) :
    s'.outline.node? n.id = some (if n.id ∈ touched.affected then e.change.apply n else n) := by
  rw [edit_eq_ok h]
  exact e.change.node?_make touched.affected hn

/-- **Edits are all or nothing.** An edit is refused with a missing node just if its node is not in the outline, with a
missing estimation just if it chooses a level of a node without one, and with a level out of range just if the
estimation of the node has no such level; a refused edit leaves the session as it is. An accepted one changes nothing
of the session but nodes of the outline, which keep their places: those not affected stay as they are, and those
affected change in what the edit names. The visible ones are the affected nodes all of whose ancestors are opened
afterwards. -/
theorem edit_atomic (s : Session) (e : Edit) :
    (∀ id, (s.edit e).2 = .error (.notFound id) ↔ id = e.node ∧ e.node ∉ s.outline.ids) ∧
    (∀ id, (s.edit e).2 = .error (.noEstimation id) ↔ id = e.node ∧
      ∃ n level, s.outline.node? e.node = some n ∧ e.change = .setLevel level ∧ n.label.estimation = none) ∧
    (∀ id level levels, (s.edit e).2 = .error (.levelOutOfRange id level levels) ↔ id = e.node ∧
      ∃ n est, s.outline.node? e.node = some n ∧ e.change = .setLevel level ∧ n.label.estimation = some est ∧
        est.levels = levels ∧ levels ≤ level) ∧
    (∀ s' reason, s.edit e = (s', .error reason) → s' = s ∧ s.operate (.edit e) = s) ∧
    ∀ s' touched, s.edit e = (s', .ok touched) →
      s.operate (.edit e) = s' ∧ s' = { s with outline := s'.outline } ∧
      s'.outline.forest.map Node.id = s.outline.forest.map Node.id ∧
      (∀ n ∈ s.outline.nodes, ∃ n', s'.outline.node? n.id = some n' ∧
        (n.id ∉ touched.affected → n' = n) ∧
        (n.id ∈ touched.affected → n' = e.change.apply n) ∧
        e.change.Frames n n') ∧
      ((∀ j, e.change ≠ .judge j) → touched.affected = [e.node]) ∧
      touched.visible = touched.affected.filter fun id =>
        ∀ a ∈ s'.outline.nodes, a.id ∈ s'.outline.parentsOf id → a.state.opened = true := by
  refine ⟨fun id => edit_notFound_iff, fun id => edit_noEstimation_iff,
    fun id level levels => edit_levelOutOfRange_iff, fun s' reason h => ?refused,
    fun s' touched h => ⟨congrArg Prod.fst h, ?session, ?places, fun n hn => ?node, affected_edit h, visible_edit h⟩⟩
  case refused =>
    have hsame : (s.edit e).1 = s := edit_of_error (congrArg Prod.snd h)
    exact ⟨(congrArg Prod.fst h).symm.trans hsame, hsame⟩
  case session => rw [edit_eq_ok h]; rfl
  case places =>
    rw [edit_eq_ok h]
    exact e.change.map_id_make s.outline touched.affected
  case node =>
    refine ⟨_, node?_edit h hn, fun hid => if_neg hid, fun hid => if_pos hid, ?_⟩
    split
    · exact e.change.frames_apply n
    · exact Change.Frames.refl e.change n

end Session

end LoopSurvey
