import LoopSurvey.Proofs.Session.Editing
/-!
# Editing a node again

Two changes of one kind change the same part of a node (`Change.SameKind`), so that the second one, if it is not
refused, leaves nothing of the first (`Change.apply_apply`, `Change.make_make`). A change of labels does not change
which nodes a judgment reaches (`judgmentReach_of_map`), and no change changes which levels a node has. So the second
edit is answered as it would have been without the first, and where it is accepted, it leaves the same session
(`edit_after_edit`). A refused one leaves what the first edit has made.
-/

namespace LoopSurvey

namespace Label

theorem judge_judge (l : Label) (j j' : Judgment) : (l.judge j).judge j' = l.judge j' := by
  simp [judge, Mark.withCompletion_withCompletion, Function.comp_def]

/-- Of two levels the second one counts, if there is such a level. -/
theorem withLevel_withLevel {l : Label} {level' : Nat} (h : ∀ e ∈ l.estimation, level' < e.levels) (level : Nat) :
    (l.withLevel level).withLevel level' = l.withLevel level' := by
  cases hest : l.estimation with
  | none => simp [withLevel, hest]
  | some e =>
    have hlevel : level' < e.levels := h e hest
    by_cases hfirst : level < e.levels <;> simp [withLevel, hest, Estimation.at?, hlevel, hfirst]

end Label

namespace Change

/-- Changes of the same part of a node, to one value or another. -/
inductive SameKind : Change → Change → Prop
  | judge (j j' : Judgment) : SameKind (.judge j) (.judge j')
  | setLevel (level level' : Nat) : SameKind (.setLevel level) (.setLevel level')
  | comment (text text' : String) : SameKind (.comment text) (.comment text')
  | check (checked checked' : Bool) : SameKind (.check checked) (.check checked')
  | setOpened (opened opened' : Bool) : SameKind (.setOpened opened) (.setOpened opened')

theorem SameKind.refl (c : Change) : c.SameKind c := by
  cases c <;> constructor

/-- Where a change chooses a level, the node has such a level if it has levels at all. -/
def Suits (c : Change) (n : Node) : Prop := ∀ level, c = .setLevel level → ∀ e ∈ n.label.estimation, level < e.levels

variable {c c' : Change}

/-- Of two changes of one kind the second one counts. -/
theorem apply_apply (h : c.SameKind c') {n : Node} (hsuits : c'.Suits n) : c'.apply (c.apply n) = c'.apply n := by
  cases h with
  | judge j j' => exact congrArg (Node.mk n.id n.kind n.payload n.state) (n.label.judge_judge j j')
  | setLevel level level' =>
    exact congrArg (Node.mk n.id n.kind n.payload n.state) (Label.withLevel_withLevel (hsuits level' rfl) level)
  | comment text text' => rfl
  | check checked checked' => rfl
  | setOpened opened opened' => rfl

theorem make_make (h : c.SameKind c') {o : Outline} {ids : List NodeId}
    (hsuits : ∀ n ∈ o.nodes, n.id ∈ ids → c'.Suits n) : c'.make (c.make o ids) ids = c'.make o ids := by
  refine Outline.ext_forest ?_
  rw [c'.forest_make, c'.forest_make, c.forest_make, Forest.map_map]
  refine Forest.map_congr fun n hn => ?_
  by_cases hid : n.id ∈ ids
  · simp only [Function.comp, if_pos hid, c.id_apply]
    exact apply_apply h (hsuits n hn hid)
  · simp only [Function.comp, if_neg hid]

end Change

/-- Edits of the same kind to the same node. -/
def Edit.SameKind (e e' : Edit) : Prop := e.node = e'.node ∧ e.change.SameKind e'.change

theorem Edit.SameKind.refl (e : Edit) : e.SameKind e := ⟨rfl, .refl e.change⟩

namespace Session

variable {s s' : Session} {n : Node} {c c' : Change} {o : Outline} {affected : List NodeId}

/-! ## What a judgment reaches -/

/-- A judgment reaches the same nodes as long as the nodes keep their identifiers, payloads and checks. -/
theorem judgmentReach_of_map {f : Node → Node} (hforest : o.forest = s.outline.forest.map f)
    (hid : ∀ m, (f m).id = m.id) (hpayload : ∀ m, (f m).payload = m.payload)
    (hchecked : ∀ m, (f m).state.checked = m.state.checked) (n : Node) :
    (s.withOutline o).judgmentReach (f n) = s.judgmentReach n := by
  have hcontains : o.contains = s.outline.contains := by
    funext id
    rw [Bool.eq_iff_iff, Outline.contains_iff, Outline.contains_iff, Outline.ids_of_map hforest hid]
  have hsharing : ∀ m, (s.withOutline o).sharingLine (f m) = s.sharingLine m := by
    intro m
    simp only [sharingLine, withOutline, hpayload, hcontains]
  have htogether : (s.withOutline o).judgedTogether (f n) = (s.judgedTogether n).map f := by
    unfold judgedTogether withOutline
    rw [Outline.nodes_of_map hforest, hchecked, List.filter_map]
    simp only [Function.comp_def, hchecked, hpayload, hid]
    split <;> simp
  unfold judgmentReach
  rw [htogether, List.flatMap_map]
  simp only [hid, hsharing]

/-- A node that has been judged reaches the same nodes as before. -/
theorem judgmentReach_judged (s : Session) (j : Judgment) (n : Node) :
    (s.withOutline ((Change.judge j).make s.outline (s.judgmentReach n))).judgmentReach ((Change.judge j).apply n) =
      s.judgmentReach n := by
  have hreach := judgmentReach_of_map ((Change.judge j).forest_make s.outline (s.judgmentReach n))
    (fun m => by split <;> rfl) (fun m => by split <;> rfl) (fun m => by split <;> rfl) n
  rwa [if_pos (s.mem_judgmentReach n)] at hreach

/-! ## The second of two edits -/

/-- An accepted change affects the node it is made to. -/
theorem mem_affected (hn : n ∈ s.outline.nodes) (h : s.applyChange n c = (s', .ok affected)) : n.id ∈ affected := by
  obtain ⟨-, ⟨-, rfl⟩ | rfl⟩ := applyChange_ok hn h
  · exact s.mem_judgmentReach n
  · exact List.mem_singleton_self n.id

/-- Of the levels that may be chosen, those in range are taken. -/
theorem applyChange_setLevel (hn : n ∈ s.outline.nodes) {e : Estimation} (hest : n.label.estimation = some e)
    (level : Nat) : s.applyChange n (.setLevel level) =
      if level < e.levels then (s.withOutline ((Change.setLevel level).make s.outline [n.id]), .ok [n.id])
      else (s, .error (.levelOutOfRange n.id level e.levels)) := by
  by_cases hlevel : level < e.levels
  · have hcontains : e.contains level = true := decide_eq_true hlevel
    rw [if_pos hlevel, ← updateLabel_choose hn hest hcontains]
    simp only [applyChange, hest, dif_pos hcontains]
  · have hcontains : ¬e.contains level = true := fun h => hlevel (of_decide_eq_true h)
    rw [if_neg hlevel]
    simp only [applyChange, hest, dif_neg hcontains]

theorem applyChange_judge (s : Session) (n : Node) (j : Judgment) : s.applyChange n (.judge j) =
    (s.withOutline ((Change.judge j).make s.outline (s.judgmentReach n)), .ok (s.judgmentReach n)) := rfl

/-- After an accepted change, one of the same kind has the outcome that it has without it. If it is refused, it changes
nothing, here as there. -/
theorem applyChange_applyChange (h : c.SameKind c') (hn : n ∈ s.outline.nodes)
    (hc : s.applyChange n c = (s', .ok affected)) :
    s'.applyChange (c.apply n) c' = s.applyChange n c' ∨
      ∃ reason, s.applyChange n c' = (s, .error reason) ∧ s'.applyChange (c.apply n) c' = (s', .error reason) := by
  -- what chooses no level suits every node
  have hmake : (∀ level, c' ≠ .setLevel level) → ∀ ids,
      c'.make (c.make s.outline ids) ids = c'.make s.outline ids := fun hlevel _ =>
    Change.make_make h fun _ _ _ level he => absurd he (hlevel level)
  cases h with
  | judge j j' =>
    cases (applyChange_judge s n j).symm.trans hc
    left
    rw [applyChange_judge, s.judgmentReach_judged j n]
    exact congrArg (fun o => (s.withOutline o, Except.ok (s.judgmentReach n))) (hmake (by simp) (s.judgmentReach n))
  | setLevel level level' =>
    cases hest : n.label.estimation with
    | none => simp [applyChange, hest] at hc
    | some e =>
      rw [applyChange_setLevel hn hest] at hc
      split at hc
      · next hlevel =>
        cases hc
        have hn' : (Change.setLevel level).apply n ∈
            (s.withOutline ((Change.setLevel level).make s.outline [n.id])).outline.nodes := by
          have hnode := (Change.setLevel level).node?_make [n.id] hn
          rw [if_pos (List.mem_singleton_self n.id)] at hnode
          exact (Outline.node?_eq_some_iff.1 hnode).1
        have hest' : ((Change.setLevel level).apply n).label.estimation = some ⟨level, e.levels, hlevel⟩ := by
          simp [Change.apply, Label.withLevel, hest, Estimation.at?, hlevel]
        rw [applyChange_setLevel hn' hest', applyChange_setLevel hn hest]
        by_cases hlevel' : level' < e.levels
        · left
          rw [if_pos hlevel', if_pos hlevel']
          -- the node alone is changed, and it has the level
          refine congrArg (fun o => (s.withOutline o, Except.ok [n.id])) (Change.make_make (.setLevel level level') ?_)
          intro m hm hid level'' he e' he'
          cases he
          rw [Outline.eq_of_id_eq hm hn (List.mem_singleton.1 hid), Option.mem_def, hest] at he'
          exact Option.some.inj he' ▸ hlevel'
        · right
          rw [if_neg hlevel', if_neg hlevel']
          exact ⟨_, rfl, rfl⟩
      · cases hc
  | comment | check | setOpened =>
    cases hc
    left
    exact congrArg (fun o => (s.withOutline o, Except.ok [n.id])) (hmake (by simp) [n.id])

variable {e e' : Edit}

/-- An edit is answered as if no other one of its kind had been made to the node before. If it is refused, it changes
nothing, here as there. -/
theorem edit_operate (s : Session) (h : e.SameKind e') :
    (s.operate (.edit e)).edit e' = s.edit e' ∨
      ∃ reason, s.edit e' = (s, .error reason) ∧
        (s.operate (.edit e)).edit e' = (s.operate (.edit e), .error reason) := by
  obtain ⟨hnode, hkind⟩ := h
  rcases s.edit_cases e with ⟨reason, he⟩ | ⟨s', touched, he⟩
  · have hsame : s.operate (.edit e) = s := congrArg Prod.fst he
    exact Or.inl (by rw [hsame])
  · have hafter : s.operate (.edit e) = s' := congrArg Prod.fst he
    obtain ⟨n, hn, hc, -⟩ := edit_ok he
    obtain ⟨hmem, hid⟩ := Outline.node?_eq_some_iff.1 hn
    have hn' : s'.outline.node? e'.node = some (e.change.apply n) := by
      rw [edit_eq_ok he, ← hnode, ← hid, withOutline, e.change.node?_make _ hmem, if_pos (mem_affected hmem hc)]
    rw [hnode] at hn
    rw [hafter]
    unfold edit
    simp only [hn', hn]
    rcases applyChange_applyChange hkind hmem hc with hsame | ⟨reason, hrefused, hagain⟩
    · rw [hsame]
      exact Or.inl rfl
    · rw [hrefused, hagain]
      exact Or.inr ⟨reason, rfl, rfl⟩

/-- The answer is the same. -/
theorem answer_edit_operate (s : Session) (h : e.SameKind e') :
    ((s.operate (.edit e)).edit e').2 = (s.edit e').2 := by
  rcases s.edit_operate h with hsame | ⟨reason, halone, hafter⟩
  · rw [hsame]
  · rw [halone, hafter]

/-- An edit that is accepted leaves the session that it leaves without the other one. -/
theorem edit_operate_ok (s : Session) (h : e.SameKind e') {touched : Touched} (he' : s.edit e' = (s', .ok touched)) :
    (s.operate (.edit e)).edit e' = (s', .ok touched) := by
  rcases s.edit_operate h with hsame | ⟨reason, halone, -⟩
  · rw [hsame, he']
  · cases halone.symm.trans he'

/-- **The last edit wins.** Of two edits of one kind to a node, the first accepted or refused, the second is answered
as it would be without the first: it is refused for the same reason, or leaves the same session and affects the same
nodes, of which the same are visible. So the session after both is the one after the second alone, just if the second
is accepted or the first has changed nothing, as a refused one does not; where the second is refused, it is the one
after the first. To make an edit twice is to make it once. -/
theorem edit_after_edit (s : Session) (h : e.SameKind e') :
    ((s.run [.edit e]).edit e').2 = (s.edit e').2 ∧
    (∀ s' touched, s.edit e' = (s', .ok touched) → (s.run [.edit e]).edit e' = (s', .ok touched)) ∧
    (s.run [.edit e, .edit e'] = s.run [.edit e'] ↔
      (∃ s' touched, s.edit e' = (s', .ok touched)) ∨ s.run [.edit e] = s) ∧
    (∀ s' reason, s.edit e = (s', .error reason) → s.run [.edit e] = s) ∧
    (∀ s' reason, s.edit e' = (s', .error reason) → s.run [.edit e, .edit e'] = s.run [.edit e]) ∧
    (s.run [.edit e]).edit e = s.edit e ∧ s.run [.edit e, .edit e] = s.run [.edit e] := by
  have hrefused : ∀ s' reason, s.edit e' = (s', .error reason) → s.run [.edit e, .edit e'] = s.run [.edit e] :=
    fun s' reason he' => edit_of_error ((s.answer_edit_operate h).trans (congrArg Prod.snd he'))
  have hagain : (s.run [.edit e]).edit e = s.edit e := by
    change (s.operate (.edit e)).edit e = s.edit e
    rcases s.edit_operate (Edit.SameKind.refl e) with hsame | ⟨reason, halone, hafter⟩
    · exact hsame
    · have hsame : s.operate (.edit e) = s := congrArg Prod.fst halone
      rw [hsame]
  refine ⟨s.answer_edit_operate h, fun s' touched => edit_operate_ok s h, ?session,
    fun s' reason he => edit_of_error (congrArg Prod.snd he), hrefused, hagain, congrArg Prod.fst hagain⟩
  rcases s.edit_cases e' with ⟨reason, he'⟩ | ⟨s', touched, he'⟩
  · have halone : s.run [.edit e'] = s := congrArg Prod.fst he'
    simp [hrefused _ _ he', halone, he']
  · have hboth : s.run [.edit e, .edit e'] = s' := congrArg Prod.fst (edit_operate_ok s h he')
    have halone : s.run [.edit e'] = s' := congrArg Prod.fst he'
    simp [hboth, halone, he']

/-- Two checked loops are judged and opened again: nothing is left of the first judgment, on either of them. -/
theorem edit_after_edit_checkedPair :
    let judged : Edit := ⟨Sample.firstId, .judge (.judged "Kernel")⟩
    let reopened : Edit := ⟨Sample.firstId, .judge .notYet⟩
    judged.SameKind reopened ∧
    (∃ n, (Sample.checkedPair.run [.edit judged]).outline.node? Sample.secondId = some n ∧
      n.label.mark = .targetCompleted) ∧
    Sample.checkedPair.run [.edit judged, .edit reopened] = Sample.checkedPair.run [.edit reopened] := by
  intro judged reopened
  have hkind : judged.SameKind reopened := ⟨rfl, .judge _ _⟩
  obtain ⟨-, -, hsession, -⟩ := edit_after_edit Sample.checkedPair hkind
  exact ⟨hkind, ⟨_, rfl, by decide⟩, hsession.2 (Or.inl ⟨_, _, rfl⟩)⟩

/-- A level that the loop has, and then one that it does not have: the second edit is refused, and the level stays
where the first one has put it and the second alone would not have. -/
theorem level_stays_after_refused :
    let chosen : Edit := ⟨Sample.firstId, .setLevel 1⟩
    let refused : Edit := ⟨Sample.firstId, .setLevel 3⟩
    chosen.SameKind refused ∧
    (Sample.pairSession.edit refused).2 = .error (.levelOutOfRange Sample.firstId 3 3) ∧
    Sample.pairSession.run [.edit chosen, .edit refused] ≠ Sample.pairSession.run [.edit refused] := by
  intro chosen refused
  refine ⟨⟨rfl, .setLevel 1 3⟩, rfl, fun h => ?_⟩
  have hlevel := congrArg (fun s => (s.outline.node? Sample.firstId).map (·.label.estimation)) h
  exact absurd hlevel (by decide)

end Session

end LoopSurvey
