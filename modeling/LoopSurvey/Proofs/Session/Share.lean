import LoopSurvey.Proofs.Session.Progress
/-!
# The share of judged targets

The share of judged targets is the number of percents that reach them, rounded up (`Progress.percent?_eq_some_iff`).
As no more targets are judged than are listed (`Session.judged_le_total`), it is at most a hundred. It is a hundred
where a survey is complete, and already where less than one in a hundred of the targets is left
(`Progress.percent?_eq_hundred_iff`), which cannot be unless there are more than a hundred of them (`share_run`).
-/

namespace LoopSurvey

namespace Progress

variable {p : Progress}

theorem percent?_eq_none_iff : p.percent? = none ↔ p.total = 0 := by
  unfold percent?
  split_ifs with h <;> simp [h]

/-- The share is the least number of percents of all targets that comes to those judged. -/
theorem percent?_eq_some_iff {n : Nat} :
    p.percent? = some n ↔ 0 < p.total ∧ p.judged * 100 ≤ n * p.total ∧ n * p.total < p.judged * 100 + p.total := by
  unfold percent?
  split_ifs with h
  · simp [h]
  · have hpos : 0 < p.total := Nat.pos_of_ne_zero h
    rw [Option.some_inj, Nat.div_eq_iff hpos]
    omega

theorem isComplete_eq_true_iff : p.isComplete = true ↔ 0 < p.total ∧ p.judged = p.total := by
  simp [isComplete]

variable (hp : p.judged ≤ p.total)
include hp

theorem percent?_le {n : Nat} (h : p.percent? = some n) : n ≤ 100 := by
  obtain ⟨hpos, -, hlt⟩ := percent?_eq_some_iff.1 h
  have hbound : n * p.total < 101 * p.total := by omega
  exact Nat.le_of_lt_succ (Nat.lt_of_mul_lt_mul_right hbound)

/-- The share is a hundred just if less than one in a hundred of the targets is left. -/
theorem percent?_eq_hundred_iff : p.percent? = some 100 ↔ 100 * (p.total - p.judged) < p.total := by
  rw [percent?_eq_some_iff]
  omega

theorem percent?_of_isComplete (h : p.isComplete = true) : p.percent? = some 100 := by
  obtain ⟨hpos, hall⟩ := isComplete_eq_true_iff.1 h
  rw [percent?_eq_hundred_iff hp, hall, Nat.sub_self]
  exact hpos

/-- One of at most a hundred targets is no less than one in a hundred. -/
theorem isComplete_of_percent? (hle : p.total ≤ 100) (h : p.percent? = some 100) : p.isComplete = true := by
  rw [percent?_eq_hundred_iff hp] at h
  rw [isComplete_eq_true_iff]
  omega

end Progress

namespace Session

theorem judged_le_total (s : Session) : s.progress.judged ≤ s.progress.total := by
  rw [judged_progress]
  exact List.countP_le_length

/-- **What a full share tells.** However a session has been worked on, all its targets count, and no more are judged
than there are. There is a share just if there are targets, and it is at most a hundred. It is a hundred just if less
than one in a hundred of the targets is left. So it is where the survey is complete, and of at most a hundred targets
nowhere else. -/
theorem share_run (s : Session) (operations : List Operation) :
    let p := (s.run operations).progress
    p.total = s.tables.targets.length ∧ p.judged ≤ p.total ∧
    (p.percent? = none ↔ s.tables.targets = []) ∧ (∀ n, p.percent? = some n → n ≤ 100) ∧
    (p.percent? = some 100 ↔ 100 * (p.total - p.judged) < p.total) ∧
    (p.isComplete = true → p.percent? = some 100) ∧
    (p.total ≤ 100 → (p.percent? = some 100 ↔ p.isComplete = true)) := by
  intro p
  have htotal : p.total = s.tables.targets.length :=
    congrArg (·.targets.length) (s.tables_run operations)
  have hle : p.judged ≤ p.total := (s.run operations).judged_le_total
  have hfull : p.isComplete = true → p.percent? = some 100 := Progress.percent?_of_isComplete hle
  refine ⟨htotal, hle, ?_, fun n => Progress.percent?_le hle, Progress.percent?_eq_hundred_iff hle, hfull,
    fun hfew => ⟨Progress.isComplete_of_percent? hle hfew, hfull⟩⟩
  rw [Progress.percent?_eq_none_iff, htotal, List.length_eq_zero_iff]

/-- Of the two loops both are judged as soon as one is, for they share their line, and then the share is a hundred. -/
theorem share_run_pair :
    let p := (Sample.pairSession.run [.makeReady, .edit ⟨Sample.firstId, .judge (.judged "Kernel")⟩]).progress
    p.isComplete = true ∧ p.total ≤ 100 ∧ p.percent? = some 100 := by
  intro p
  have hcomplete : p.isComplete = true := by decide +kernel
  obtain ⟨htotal, -, -, -, -, hfull, -⟩ :=
    Sample.pairSession.share_run [.makeReady, .edit ⟨Sample.firstId, .judge (.judged "Kernel")⟩]
  refine ⟨hcomplete, ?_, hfull hcomplete⟩
  calc
    p.total = Sample.pairTables.targets.length := htotal
    _ ≤ 100 := by decide

end Session

/-- Two loops, of which the first is listed as a target a hundred times and the second once. -/
def Sample.hundredAndOne : Forest Record :=
  .cons { id := .text "a", relevant := true, target := true, targets := List.replicate 100 (.text "a") ++ [.text "b"] }
    .nil (.cons { id := .text "b", relevant := true, target := true } .nil .nil)

namespace Session

/-- Of a hundred and one targets one is not judged, and the share is a hundred all the same. -/
theorem full_and_not_complete :
    ∃ o tables, Record.load Sample.hundredAndOne = .ok (o, tables) ∧
      let p := (({ outline := o, tables } : Session).run
        [.edit ⟨Sample.firstId, .judge (.judged "Kernel")⟩]).progress
      p = ⟨100, 101⟩ ∧ p.percent? = some 100 ∧ p.isComplete = false :=
  ⟨_, _, rfl, by decide +kernel⟩

end Session

end LoopSurvey
