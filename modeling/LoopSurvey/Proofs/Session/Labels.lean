import LoopSurvey.Proofs.Session.Progress
/-!
# What labels keep

A label is filled at loading, by conditions of their own for each of its parts, and changed by edits. Which parts it
has is settled by the record it comes from: no edit gives or takes an estimation, a judgment selector or the mark of
a target (`Label.estimation_of_unedited_eq`, `Label.of_unedited_eq`). What edits do change they keep well-formed:
comments are never empty (`Label.comment_setComment_ne`), and marks tell what is judged (`Label.Tells`). So every
node of a loaded outline has a label of this form, whatever has been done (`labels_proceed`).
-/

namespace LoopSurvey

namespace Label

/-- No edit gives or takes an estimation, nor changes its number of levels. -/
theorem estimation_of_unedited_eq {l l' : Label} (h : l.unedited = l'.unedited) :
    l.estimation.map Estimation.levels = l'.estimation.map Estimation.levels := by
  have hlevels : ∀ l : Label, l.unedited.estimation.map Estimation.levels = l.estimation.map Estimation.levels := by
    intro l
    simp [unedited, Function.comp_def]
  rw [← hlevels l, ← hlevels l', h]

theorem comment_setComment_ne (l : Label) (text : String) : (l.setComment text).comment ≠ some "" := by
  intro h
  unfold setComment at h
  dsimp only at h
  split at h
  · cases h
  · next hne => exact hne (Option.some.inj h)

end Label

/-- No change of a node leaves an empty comment. -/
theorem Change.comment_apply_ne (c : Change) (n : Node) (h : n.label.comment ≠ some "") :
    (c.apply n).label.comment ≠ some "" := by
  cases c with
  | comment text => exact n.label.comment_setComment_ne text
  | judge j => exact h
  | setLevel level => exact h
  | check checked => exact h
  | setOpened opened => exact h

namespace Record

theorem levels_estimation (r : Record) : r.estimation.levels = estimationLevels := by
  unfold estimation
  cases r.level.bind Scalar.line? with
  | none => rfl
  | some level => exact Label.levels_at? ⟨0, estimationLevels, by decide⟩ level

/-- There is an estimation just where there are metrics, and it has the levels that metrics have. -/
theorem estimation_label (r : Record) :
    r.label.estimation.map Estimation.levels = r.payload.metrics.map fun _ => estimationLevels := by
  have hpayload : r.payload.metrics = r.metrics := rfl
  have hlabel : r.label.estimation = r.metrics.map fun _ => r.estimation := rfl
  rw [hpayload, hlabel, Option.map_map]
  exact Option.map_congr fun _ _ => r.levels_estimation

theorem comment_label_ne (r : Record) : r.label.comment ≠ some "" := by
  intro h
  obtain ⟨-, hne⟩ := Option.filter_eq_some_iff.1 h
  simp at hne

end Record

namespace Session

/-! ## What a node keeps of its record -/

section Kept

variable {r : Record} {m n : Node} (hr : r.toNode = .ok m) (hmn : m.unedited = n.unedited)
include hr hmn

theorem id_of_record : r.id.toText = n.id.text :=
  (Record.toNode_eq_ok hr).symm.trans (congrArg (·.id.text) hmn)

theorem payload_of_record : n.payload = r.payload :=
  (congrArg Node.payload hmn).symm.trans (Record.toNode_eq_ok_label hr).2

theorem estimation_of_record :
    n.label.estimation.map Estimation.levels = n.payload.metrics.map fun _ => estimationLevels := by
  have hlevels := Label.estimation_of_unedited_eq (congrArg Node.label hmn)
  rw [← hlevels, (Record.toNode_eq_ok_label hr).1, payload_of_record hr hmn]
  exact r.estimation_label

theorem isSome_judgment_of_record : n.label.judgment.isSome = r.hasSelector := by
  have hselector := (Label.of_unedited_eq (congrArg Node.label hmn)).1
  rw [← hselector, (Record.toNode_eq_ok_label hr).1]
  exact r.isSome_judgment_label

theorem mark_of_record : n.label.mark = .plain ↔ n.payload.target = false := by
  have hplain := (Label.of_unedited_eq (congrArg Node.label hmn)).2
  rw [← hplain, (Record.toNode_eq_ok_label hr).1, payload_of_record hr hmn]
  exact r.mark_label_eq_plain_iff

end Kept

/-! ## All nodes of a loaded outline -/

variable {records : Forest Record} {o : Outline} {tables : Tables} {s : Session}

theorem comment_ne_of_moves (h : Record.load records = .ok (o, tables)) (hmoves : Moves { outline := o, tables } s) :
    ∀ n ∈ s.outline.nodes, n.label.comment ≠ some "" := by
  refine hmoves.forall_nodes (P := fun n => n.label.comment ≠ some "") (fun _ => Iff.rfl)
    Change.comment_apply_ne fun n hn => ?_
  obtain ⟨r, -, hr⟩ := Record.exists_toNode_of_load h hn
  rw [(Record.toNode_eq_ok_label hr).1]
  exact r.comment_label_ne

/-- **What every label keeps.** However a loaded outline is worked on, each of its nodes has an estimation just if it
has metrics, and then a level out of the three there are; its comment is never empty; it has a judgment selector
just if its record is relevant or judged; it is marked as a target just if it is one; and the mark of a target with
a selector shows completion just if the judgment is a completed one. -/
theorem labels_proceed (h : Record.load records = .ok (o, tables)) (steps : List Step) :
    ∀ n ∈ (({ outline := o, tables } : Session).proceed steps).outline.nodes,
      (n.label.estimation ≠ none ↔ n.payload.metrics ≠ none) ∧
      (∀ e ∈ n.label.estimation, e.levels = estimationLevels ∧ e.level < estimationLevels) ∧
      n.label.comment ≠ some "" ∧
      (∃ r ∈ records.preorder, r.id.toText = n.id.text ∧
        (n.label.judgment ≠ none ↔ r.relevant = true ∨ r.judgment ≠ none)) ∧
      (n.label.mark = .plain ↔ n.payload.target = false) ∧
      (n.payload.target = true → ∀ j, n.label.judgment = some j →
        (n.label.mark = .targetCompleted ↔ j.isCompleted = true)) := by
  intro n hn
  have hmoves := moves_proceed { outline := o, tables } steps
  obtain ⟨r, hrecord, m, hr, hmn⟩ := exists_record_of_moves h hmoves hn
  have hlevels := estimation_of_record hr hmn
  have hmark := mark_of_record hr hmn
  refine ⟨?estimation, fun e he => ?level, comment_ne_of_moves h hmoves n hn,
    ⟨r, hrecord, id_of_record hr hmn, ?selector⟩, hmark, fun htarget j hj => ?completed⟩
  case estimation =>
    have hsome := congrArg Option.isSome hlevels
    rw [Option.isSome_map, Option.isSome_map, Bool.eq_iff_iff] at hsome
    rwa [← Option.isSome_iff_ne_none, ← Option.isSome_iff_ne_none]
  case level =>
    rw [Option.mem_def.1 he, Option.map_some] at hlevels
    obtain ⟨metrics, -, hthree⟩ := Option.map_eq_some_iff.1 hlevels.symm
    exact ⟨hthree.symm, hthree ▸ e.level_lt⟩
  case selector =>
    rw [← Option.isSome_iff_ne_none, isSome_judgment_of_record hr hmn, Record.hasSelector, Bool.or_eq_true,
      ← Option.isSome_iff_ne_none]
  case completed =>
    have hjudged : n.label.isJudged = j.isCompleted := by
      rw [Label.isJudged, hj, Option.any_some]
    have hne : n.label.mark ≠ .plain := fun hplain => by
      rw [hmark.1 hplain] at htarget
      cases htarget
    rw [← hjudged]
    exact tells_of_moves h hmoves n hn (Option.isSome_iff_exists.2 ⟨j, hj⟩) hne

end Session

/-- One measured loop, which is a target; its level is out of range, and its comment is empty. -/
def Sample.measuredLoop : Forest Record :=
  .cons { id := .text "a", relevant := true, target := true, factors := (some 1, none, none), level := some (.int 7)
          comment := some "" } .nil .nil

namespace Session

/-- Judged and set to another level, the measured loop has the completion mark and a level in range. -/
theorem labels_proceed_measured :
    let steps : List Step :=
      [.operate (.edit ⟨Sample.firstId, .judge (.judged "Kernel")⟩), .operate (.edit ⟨Sample.firstId, .setLevel 2⟩)]
    ∃ o tables n, Record.load Sample.measuredLoop = .ok (o, tables) ∧
      n ∈ (({ outline := o, tables } : Session).proceed steps).outline.nodes ∧
      n.label.estimation ≠ none ∧ n.label.comment ≠ some "" ∧ n.label.mark = .targetCompleted := by
  intro steps
  refine ⟨_, _, _, rfl, List.mem_singleton.2 rfl, ?_⟩
  obtain ⟨hestimation, -, hcomment, -, -, hcompleted⟩ :=
    @labels_proceed Sample.measuredLoop _ _ rfl steps _ (List.mem_singleton.2 rfl)
  exact ⟨hestimation.2 (Option.some_ne_none _), hcomment, (hcompleted rfl (.judged "Kernel") rfl).2 rfl⟩

end Session

end LoopSurvey
