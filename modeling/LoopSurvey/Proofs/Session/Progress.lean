import LoopSurvey.Proofs.Record.Loading
import LoopSurvey.Proofs.Session.Steady
import LoopSurvey.Sample.Pair
import LoopSurvey.Session.Progress
/-!
# What progress counts

Progress counts the listed targets that are in the outline with a completed judgment (`judged_progress`), out of
all that are listed. A survey whose targets have been put in order is complete just if there are targets in
order, all of them are judged, and no listed target is missing from the outline (`isComplete_run`). The
completion mark of a target tells what is counted wherever the node has a judgment selector, and a target
without one is never counted (`completed_run`).
-/

namespace LoopSurvey

namespace Session

/-- Whether the node with an identifier is there and has a completed judgment. -/
def isJudged (s : Session) (id : NodeId) : Bool := (s.outline.node? id).any (·.label.isJudged)

variable {s : Session}

/-! ## Progress and the order of the targets -/

theorem judged_progress (s : Session) : s.progress.judged = s.tables.targets.countP s.isJudged := by
  unfold progress isJudged
  dsimp only
  induction s.tables.targets with
  | nil => rfl
  | cons id ids ih => cases h : s.outline.node? id <;> simp [h, ih, List.countP_cons]

theorem isJudged_of_node? {id : NodeId} {n : Node} (h : s.outline.node? id = some n) :
    s.isJudged id = n.label.isJudged := by
  rw [isJudged, h, Option.any_some]

theorem mem_ids_of_isJudged {id : NodeId} (h : s.isJudged id = true) : id ∈ s.outline.ids := by
  obtain ⟨n, hn, -⟩ := (Option.any_eq_true _ _).1 h
  obtain ⟨hmem, hid⟩ := Outline.node?_eq_some_iff.1 hn
  exact Outline.mem_ids.2 ⟨n, hmem, hid⟩

/-- A survey is complete just if there are targets and each one listed is judged. -/
theorem isComplete_iff :
    s.progress.isComplete = true ↔ s.tables.targets ≠ [] ∧ ∀ id ∈ s.tables.targets, s.isJudged id = true := by
  have htotal : s.progress.total = s.tables.targets.length := rfl
  simp only [Progress.isComplete, htotal, judged_progress, Bool.and_eq_true, decide_eq_true_eq,
    List.length_pos_iff, List.countP_eq_length]

/-- The targets in order are judged, and nothing else is listed. -/
theorem Ordered.isComplete_iff (h : s.Ordered) :
    s.progress.isComplete = true ↔
      (s.targetOrder ≠ [] ∧ ∀ id ∈ s.targetOrder, s.isJudged id = true) ∧
        ∀ id ∈ s.tables.targets, id ∈ s.outline.ids := by
  rw [Session.isComplete_iff]
  constructor
  · rintro ⟨hne, hjudged⟩
    have hthere : ∀ id ∈ s.tables.targets, id ∈ s.outline.ids := fun id hid => mem_ids_of_isJudged (hjudged id hid)
    obtain ⟨id, hid⟩ := List.exists_mem_of_ne_nil _ hne
    refine ⟨⟨List.ne_nil_of_mem (h.mem_targetOrder.2 ⟨hid, hthere id hid⟩), fun id hid => ?_⟩, hthere⟩
    exact hjudged id (h.mem_targetOrder.1 hid).1
  · rintro ⟨⟨hne, hjudged⟩, hthere⟩
    obtain ⟨id, hid⟩ := List.exists_mem_of_ne_nil _ hne
    refine ⟨List.ne_nil_of_mem (h.mem_targetOrder.1 hid).1, fun id hid => ?_⟩
    exact hjudged id (h.mem_targetOrder.2 ⟨hid, hthere id hid⟩)

/-- **When a survey is complete.** However a session has been worked on since it was made ready, its progress is
complete just if there are targets in order, all of them are judged, and every target listed at the
beginning is in the outline. -/
theorem isComplete_run (s : Session) (operations : List Operation) :
    let t := s.makeReady.1.run operations
    t.progress.isComplete = true ↔
      (t.targetOrder ≠ [] ∧ ∀ id ∈ t.targetOrder, t.isJudged id = true) ∧
        ∀ id ∈ s.tables.targets, id ∈ s.outline.ids := by
  have htables : (s.makeReady.1.run operations).tables = s.tables := s.tables_run (.makeReady :: operations)
  have hids : s.outline.ids = (s.makeReady.1.run operations).outline.ids :=
    (s.sameUnedited_run (.makeReady :: operations)).ids
  rw [hids, ← htables]
  exact (ordered_run s.ordered_makeReady operations).isComplete_iff

end Session

/-- One loop, which is a target, and another target that is listed but not among the nodes. -/
def Sample.missingTarget : Forest Record :=
  .cons { id := .text "a", relevant := true, target := true, targets := [.text "a", .text "gone"] } .nil .nil

namespace Session

/-- With a listed target missing, a survey whose targets are all judged is not complete. -/
theorem not_isComplete_of_missing_target :
    ∃ o tables, Record.load Sample.missingTarget = .ok (o, tables) ∧
      let s := ({ outline := o, tables } : Session).makeReady.1.run
        [.edit ⟨Sample.firstId, .judge (.judged "Kernel")⟩]
      s.targetOrder = [Sample.firstId] ∧ s.isJudged Sample.firstId = true ∧ s.progress = ⟨1, 2⟩ ∧
        s.progress.isComplete = false :=
  ⟨_, _, rfl, by decide +kernel⟩

end Session

/-! ## Completion marks -/

namespace Label

/-- The mark of a target with a judgment selector shows completion just if the node is judged. -/
def Tells (l : Label) : Prop :=
  l.judgment.isSome = true → l.mark ≠ .plain → (l.mark = .targetCompleted ↔ l.isJudged = true)

theorem tells_judge (l : Label) (j : Judgment) : (l.judge j).Tells := by
  obtain ⟨text, judgment, estimation, comment, mark⟩ := l
  intro hselector hmark
  cases judgment with
  | none => cases hselector
  | some current =>
    cases mark with
    | plain => exact absurd rfl hmark
    | target => cases j <;> simp [judge, isJudged, Mark.withCompletion, Judgment.isCompleted]
    | targetCompleted => cases j <;> simp [judge, isJudged, Mark.withCompletion, Judgment.isCompleted]

theorem Tells.setComment {l : Label} (h : l.Tells) (text : String) : (l.setComment text).Tells := h

theorem Tells.withLevel {l : Label} (h : l.Tells) (level : Nat) : (l.withLevel level).Tells := h

/-- Labels without their edits tell whether there is a selector, and whether the node is a target. -/
theorem of_unedited_eq {l l' : Label} (h : l.unedited = l'.unedited) :
    l.judgment.isSome = l'.judgment.isSome ∧ (l.mark = .plain ↔ l'.mark = .plain) := by
  have hselector := congrArg (·.judgment.isSome) h
  have hmark : l.mark.withCompletion false = l'.mark.withCompletion false := congrArg Label.mark h
  simp only [unedited, Option.isSome_map] at hselector
  refine ⟨hselector, ?_⟩
  cases hl : l.mark <;> cases hl' : l'.mark <;> simp [hl, hl', Mark.withCompletion] at hmark ⊢

theorem isJudged_of_isNone {l : Label} (h : l.judgment.isSome = false) : l.isJudged = false := by
  rw [Option.isSome_eq_false_iff, Option.isNone_iff_eq_none] at h
  rw [isJudged, h]
  rfl

end Label

namespace Record

/-- Whether a record's node has a judgment selector: relevant and judged nodes have one. -/
def hasSelector (r : Record) : Bool := r.relevant || r.judgment.isSome

theorem isSome_judgment_label (r : Record) : r.label.judgment.isSome = r.hasSelector := by
  unfold label hasSelector
  dsimp only
  split
  · next h => exact h.symm
  · next h => exact (Bool.eq_false_iff.2 h).symm

/-- The mark of a record's node is that of a target just if the record is one. -/
theorem mark_label_eq_plain_iff (r : Record) : r.label.mark = .plain ↔ r.target = false := by
  unfold label
  dsimp only
  cases r.target with
  | false => exact ⟨fun _ => rfl, fun _ => rfl⟩
  | true => cases r.givenJudgment.any Judgment.isCompleted <;> simp [Mark.withCompletion]

theorem tells_label (r : Record) : r.label.Tells := by
  intro hselector hmark
  have htarget : r.target = true := eq_true_of_ne_false fun h => hmark (r.mark_label_eq_plain_iff.2 h)
  have hjudged : r.label.isJudged = r.givenJudgment.any Judgment.isCompleted := by
    rw [isSome_judgment_label, hasSelector] at hselector
    rw [Label.isJudged, label, if_pos hselector]
    cases r.givenJudgment <;> rfl
  rw [hjudged, label, if_pos htarget]
  cases r.givenJudgment.any Judgment.isCompleted <;> simp [Mark.withCompletion]

end Record

namespace Session

variable {records : Forest Record} {o : Outline} {tables : Tables}

/-- After any work each node still is the node of a record, edited and shown differently at most. -/
theorem exists_record_of_moves {s : Session} (h : Record.load records = .ok (o, tables))
    (hmoves : Moves { outline := o, tables } s) {n : Node} (hn : n ∈ s.outline.nodes) :
    ∃ r ∈ records.preorder, ∃ m, r.toNode = .ok m ∧ m.unedited = n.unedited := by
  obtain ⟨m, hm, hmn⟩ := hmoves.sameUnedited.exists_of_mem hn
  obtain ⟨r, hr, hrm⟩ := Record.exists_toNode_of_load h hm
  exact ⟨r, hr, m, hrm, hmn⟩

theorem tells_apply (c : Change) (n : Node) (h : n.label.Tells) : (c.apply n).label.Tells := by
  cases c with
  | judge j => exact n.label.tells_judge j
  | setLevel level => exact h.withLevel level
  | comment text => exact h.setComment text
  | check checked => exact h
  | setOpened opened => exact h

/-- The marks tell what is judged after any work on a loaded outline. -/
theorem tells_of_moves {s : Session} (h : Record.load records = .ok (o, tables))
    (hmoves : Moves { outline := o, tables } s) : ∀ n ∈ s.outline.nodes, n.label.Tells := by
  refine hmoves.forall_nodes (P := fun n => n.label.Tells) (fun _ => Iff.rfl) tells_apply fun n hn => ?_
  obtain ⟨r, -, hr⟩ := Record.exists_toNode_of_load h hn
  rw [(Record.toNode_eq_ok_label hr).1]
  exact r.tells_label

/-- **What a completion mark tells.** However a loaded outline has been worked on, progress counts the listed
targets that are judged. A target in the outline whose record gave it a judgment selector is counted just if
it has the completion mark; one without a selector is not counted, whatever its mark is. -/
theorem completed_run (h : Record.load records = .ok (o, tables)) (operations : List Operation) :
    let s := ({ outline := o, tables } : Session).run operations
    s.progress.judged = s.tables.targets.countP s.isJudged ∧
    ∀ id ∈ s.tables.targets, ∀ n, s.outline.node? id = some n → n.payload.target = true →
      ∃ r ∈ records.preorder, r.id.toText = id.text ∧
        (r.hasSelector = true → (n.label.mark = .targetCompleted ↔ s.isJudged id = true)) ∧
        (r.hasSelector = false → s.isJudged id = false) := by
  refine ⟨judged_progress _, fun id _ n hnode htarget => ?_⟩
  obtain ⟨hn, hid⟩ := Outline.node?_eq_some_iff.1 hnode
  obtain ⟨r, hr, m, hm, hmn⟩ := exists_record_of_moves h (moves_run _ operations) hn
  obtain ⟨hlabel, hpayload⟩ := Record.toNode_eq_ok_label hm
  obtain ⟨hselector, hplain⟩ := Label.of_unedited_eq (congrArg Node.label hmn)
  have hjudged : Session.isJudged _ id = n.label.isJudged := isJudged_of_node? hnode
  -- no edit gives or takes a selector, so the record still tells whether there is one
  rw [hlabel, r.isSome_judgment_label] at hselector
  refine ⟨r, hr, ?_, fun hs => ?_, fun hs => ?_⟩
  · rw [← Record.toNode_eq_ok hm, ← hid]
    exact congrArg (·.id.text) hmn
  · have hmark : n.label.mark ≠ .plain := by
      rw [Ne, ← hplain, hlabel, r.mark_label_eq_plain_iff]
      have hrecord : r.target = n.payload.target :=
        (congrArg Payload.target hpayload).symm.trans (congrArg (·.payload.target) hmn)
      rw [hrecord, htarget]
      exact Bool.noConfusion
    rw [hjudged]
    exact tells_of_moves h (moves_run _ operations) n hn (hselector.symm.trans hs) hmark
  · rw [hjudged]
    exact Label.isJudged_of_isNone (hselector.symm.trans hs)

/-- A judged target with a selector has the mark, and so it is counted. -/
theorem completed_run_judged :
    ∃ o tables n, Record.load Sample.missingTarget = .ok (o, tables) ∧
      let s := ({ outline := o, tables } : Session).run [.edit ⟨Sample.firstId, .judge (.judged "Kernel")⟩]
      Sample.firstId ∈ s.tables.targets ∧ s.outline.node? Sample.firstId = some n ∧
        n.payload.target = true ∧ n.label.mark = .targetCompleted ∧ s.isJudged Sample.firstId = true := by
  refine ⟨_, _, _, rfl, ?listed, rfl, rfl, rfl, ?judged⟩
  case listed => decide
  case judged =>
    obtain ⟨r, hr, -, hmark, -⟩ := (@completed_run Sample.missingTarget _ _ rfl
      [.edit ⟨Sample.firstId, .judge (.judged "Kernel")⟩]).2 Sample.firstId (by decide) _ rfl rfl
    cases List.mem_singleton.1 hr
    exact (hmark rfl).1 rfl

end Session

/-- One loop, which is a target without a judgment selector. -/
def Sample.bareTarget : Forest Record :=
  .cons { id := .text "a", target := true, targets := [.text "a"] } .nil .nil

namespace Session

/-- A target without a selector has the mark once it is judged, and is not counted. -/
theorem completed_and_not_counted :
    ∃ o tables n, Record.load Sample.bareTarget = .ok (o, tables) ∧
      let s := ({ outline := o, tables } : Session).run [.edit ⟨Sample.firstId, .judge (.judged "Kernel")⟩]
      Sample.firstId ∈ s.tables.targets ∧ s.outline.node? Sample.firstId = some n ∧
        n.payload.target = true ∧ n.label.mark = .targetCompleted ∧
        s.isJudged Sample.firstId = false ∧ s.progress = ⟨0, 1⟩ :=
  ⟨_, _, _, rfl, by decide, rfl, rfl, rfl, by decide, by decide⟩

end Session

end LoopSurvey
