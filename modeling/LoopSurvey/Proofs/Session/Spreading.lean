import LoopSurvey.Proofs.Session.Steady
import LoopSurvey.Sample.Pair
/-!
# How a judgment spreads

A judgment goes from a checked node to the checked relevant ones (`Node.JudgedWith`), and from each of these to the
nodes of the outline that are registered for its line (`Session.SharesLine`). The nodes reached are these, each once
(`mem_judgmentReach_iff`, `nodup_judgmentReach`), and an accepted judgment is made to them alone (`judge_spreads`).
Checked relevant nodes reach the same nodes, in different orders, so it does not matter which of them is judged
(`judge_same_of_checked`).
-/

namespace LoopSurvey

/-- Of repeated elements one is left. -/
theorem nodup_eraseDups {α : Type} [DecidableEq α] : ∀ l : List α, l.eraseDups.Nodup
  | [] => List.nodup_nil
  | a :: l => by
    have hrest : (l.filter fun b => !b == a).eraseDups.Nodup := nodup_eraseDups _
    have hnew : a ∉ (l.filter fun b => !b == a).eraseDups := by
      rw [List.mem_eraseDups, List.mem_filter]
      simp
    rw [List.eraseDups_cons]
    exact List.nodup_cons.2 ⟨hnew, hrest⟩
termination_by l => l.length
decreasing_by exact Nat.lt_succ_of_le (List.length_filter_le _ _)

/-- A node that is judged along with another one: that node itself, and if it is checked, every checked relevant
node. -/
def Node.JudgedWith (b n : Node) : Prop :=
  b = n ∨ n.state.checked = true ∧ b.state.checked = true ∧ b.payload.relevant = true

theorem Node.judgedWith_iff_of_checked {b n : Node} (hchecked : n.state.checked = true)
    (hrelevant : n.payload.relevant = true) :
    b.JudgedWith n ↔ b.state.checked = true ∧ b.payload.relevant = true := by
  constructor
  · rintro (rfl | ⟨-, h⟩)
    · exact ⟨hchecked, hrelevant⟩
    · exact h
  · exact fun h => Or.inr ⟨hchecked, h⟩

namespace Label

variable (l : Label) (j : Judgment)

theorem judgment_judge (h : l.judgment ≠ none) : (l.judge j).judgment = some j := by
  obtain ⟨current, hcurrent⟩ := Option.ne_none_iff_exists'.1 h
  rw [judge, hcurrent]
  rfl

theorem mark_judge_of_eq (h : l.mark = .plain) : (l.judge j).mark = .plain := by
  rw [judge, h]
  rfl

theorem mark_judge_of_ne (h : l.mark ≠ .plain) :
    (l.judge j).mark = if j = .notYet then .target else .targetCompleted := by
  cases hm : l.mark with
  | plain => exact absurd hm h
  | target => cases j <;> simp [judge, hm, Mark.withCompletion, Judgment.isCompleted]
  | targetCompleted => cases j <;> simp [judge, hm, Mark.withCompletion, Judgment.isCompleted]

end Label

namespace Session

variable {s : Session} {n m b : Node} {id : NodeId}

/-- An identifier of the outline that is registered for the line a node starts at. -/
def SharesLine (s : Session) (b : Node) (id : NodeId) : Prop :=
  ∃ path line, b.payload.path = some path ∧ b.payload.startLine = some line ∧
    id ∈ s.tables.sameLine path line ∧ id ∈ s.outline.ids

/-! ## The nodes reached -/

theorem mem_sharingLine : id ∈ s.sharingLine b ↔ s.SharesLine b id := by
  unfold sharingLine SharesLine
  split
  · next path line hpath hline =>
    rw [List.mem_filter, Outline.contains_iff]
    constructor
    · exact fun h => ⟨path, line, hpath, hline, h⟩
    · rintro ⟨path', line', hpath', hline', h⟩
      cases hpath.symm.trans hpath'
      cases hline.symm.trans hline'
      exact h
  · next hnone =>
    constructor
    · exact fun h => nomatch h
    · rintro ⟨path, line, hpath, hline, -⟩
      exact absurd hline (hnone path line hpath)

theorem mem_judgedTogether (hn : n ∈ s.outline.nodes) :
    b ∈ s.judgedTogether n ↔ b ∈ s.outline.nodes ∧ b.JudgedWith n := by
  unfold judgedTogether
  rw [List.mem_append, List.mem_singleton]
  constructor
  · rintro (h | rfl)
    · split at h
      · next hchecked =>
        obtain ⟨hb, hgroup⟩ := List.mem_filter.1 h
        simp only [Bool.and_eq_true] at hgroup
        exact ⟨hb, Or.inr ⟨hchecked, hgroup.1⟩⟩
      · cases h
    · exact ⟨hn, Or.inl rfl⟩
  · rintro ⟨hb, hwith⟩
    by_cases he : b = n
    · exact Or.inr he
    · obtain ⟨hchecked, hgroup⟩ := hwith.resolve_left he
      -- the node itself comes last, so it is left out of the checked ones
      have hid : b.id ≠ n.id := fun hid => he (Outline.eq_of_id_eq hb hn hid)
      rw [if_pos hchecked]
      exact Or.inl (List.mem_filter.2 ⟨hb, by simp [hgroup, hid]⟩)

/-- A judgment reaches what is judged along with the node, and what shares a line with that. -/
theorem mem_judgmentReach_iff (hn : n ∈ s.outline.nodes) :
    id ∈ s.judgmentReach n ↔ ∃ b ∈ s.outline.nodes, b.JudgedWith n ∧ (id = b.id ∨ s.SharesLine b id) := by
  simp only [judgmentReach, List.mem_eraseDups, List.mem_flatMap, mem_judgedTogether hn, List.mem_cons,
    mem_sharingLine, and_assoc]

/-- A node that is judged together with others is judged itself. -/
theorem mem_judgmentReach (s : Session) (n : Node) : n.id ∈ s.judgmentReach n := by
  refine List.mem_eraseDups.2 (List.mem_flatMap.2 ⟨n, ?_, List.mem_cons_self⟩)
  exact List.mem_append_right _ List.mem_cons_self

theorem nodup_judgmentReach (s : Session) (n : Node) : (s.judgmentReach n).Nodup := nodup_eraseDups _

theorem mem_ids_of_mem_judgmentReach (hn : n ∈ s.outline.nodes) (h : id ∈ s.judgmentReach n) :
    id ∈ s.outline.ids := by
  obtain ⟨b, hb, -, rfl | ⟨_, _, -, -, -, hid⟩⟩ := (mem_judgmentReach_iff hn).1 h
  · exact Outline.mem_ids.2 ⟨b, hb, rfl⟩
  · exact hid

/-- Checked relevant nodes reach the same nodes. -/
theorem judgmentReach_perm (hn : n ∈ s.outline.nodes) (hm : m ∈ s.outline.nodes)
    (hchecked : n.state.checked = true ∧ m.state.checked = true)
    (hrelevant : n.payload.relevant = true ∧ m.payload.relevant = true) :
    (s.judgmentReach n).Perm (s.judgmentReach m) := by
  refine (List.perm_ext_iff_of_nodup (s.nodup_judgmentReach n) (s.nodup_judgmentReach m)).2 fun id => ?_
  simp only [mem_judgmentReach_iff hn, mem_judgmentReach_iff hm,
    Node.judgedWith_iff_of_checked hchecked.1 hrelevant.1, Node.judgedWith_iff_of_checked hchecked.2 hrelevant.2]

/-! ## The judgment made -/

/-- A node can be judged whenever it is there. -/
theorem edit_judge (hn : s.outline.node? id = some n) (j : Judgment) :
    s.edit ⟨id, .judge j⟩ =
      let o := (Change.judge j).make s.outline (s.judgmentReach n)
      (s.withOutline o, .ok ⟨s.judgmentReach n, (s.judgmentReach n).filter o.isVisible⟩) := by
  unfold edit
  rw [hn]
  rfl

/-- **A judgment spreads.** To judge a node of the outline is never refused. It affects, each once, the nodes judged
along with it and the nodes of the outline that are registered for the lines of these. Affected nodes with a judgment
selector have the new judgment afterwards, affected targets are marked by whether it is an open one, plain marks stay
plain, and all other nodes stay as they are. -/
theorem judge_spreads (hn : n ∈ s.outline.nodes) (j : Judgment) :
    ∃ s' touched, s.edit ⟨n.id, .judge j⟩ = (s', .ok touched) ∧
      touched.affected.Nodup ∧
      (∀ id, id ∈ touched.affected ↔
        ∃ b ∈ s.outline.nodes, b.JudgedWith n ∧ (id = b.id ∨ s.SharesLine b id)) ∧
      s'.outline.ids = s.outline.ids ∧
      ∀ m ∈ s.outline.nodes, ∃ m', s'.outline.node? m.id = some m' ∧
        (m.id ∉ touched.affected → m' = m) ∧
        (m.id ∈ touched.affected →
          (m.label.judgment ≠ none → m'.label.judgment = some j) ∧
          (m.label.mark = .plain → m'.label.mark = .plain) ∧
          (m.label.mark ≠ .plain → m'.label.mark = if j = .notYet then .target else .targetCompleted)) := by
  refine ⟨_, _, edit_judge (Outline.node?_of_mem hn) j, s.nodup_judgmentReach n,
    fun id => mem_judgmentReach_iff hn, Change.ids_make _ _ _, fun m hm => ?_⟩
  refine ⟨_, Change.node?_make _ _ hm, fun hnot => if_neg hnot, fun haffected => ?_⟩
  dsimp only at haffected
  rw [if_pos haffected]
  exact ⟨m.label.judgment_judge j, m.label.mark_judge_of_eq j, m.label.mark_judge_of_ne j⟩

/-- To judge the first of two checked loops judges both, and nothing happens to the routine they are in. -/
theorem judge_spreads_checkedPair :
    Sample.loopNode Sample.firstId "DO i" true ∈ Sample.checkedPair.outline.nodes ∧
    ∃ s' touched m', Sample.checkedPair.edit ⟨Sample.firstId, .judge (.judged "Kernel")⟩ = (s', .ok touched) ∧
      touched.affected = [Sample.secondId, Sample.firstId] ∧
      s'.outline.node? Sample.secondId = some m' ∧
      m'.label.judgment = some (.judged "Kernel") ∧ m'.label.mark = .targetCompleted ∧
      s'.outline.node? Sample.routineId = Sample.checkedPair.outline.node? Sample.routineId := by
  have hfirst : Sample.loopNode Sample.firstId "DO i" true ∈ Sample.checkedPair.outline.nodes :=
    .tail _ (.head _)
  obtain ⟨s', touched, he, -, -, -, hnodes⟩ := judge_spreads hfirst (.judged "Kernel")
  have haffected : touched.affected = [Sample.secondId, Sample.firstId] := by
    cases he.symm.trans (edit_judge (Outline.node?_of_mem hfirst) (.judged "Kernel"))
    decide
  obtain ⟨m', hm', -, hjudged⟩ := hnodes (Sample.loopNode Sample.secondId "do j" true) (.tail _ (.tail _ (.head _)))
  obtain ⟨hjudgment, -, hmark⟩ := hjudged (by rw [haffected]; decide)
  obtain ⟨r', hr', hsame, -⟩ := hnodes _ (.head _)
  rw [hsame (by rw [haffected]; decide)] at hr'
  exact ⟨hfirst, s', touched, m', he, haffected, hm', hjudgment (Option.some_ne_none _), hmark (by decide), hr'⟩

/-- **A checked group is judged from any member.** If two checked relevant nodes are given the same judgment in the
same session, one or the other, the sessions afterwards are equal and the same nodes are affected and visible. -/
theorem judge_same_of_checked (hn : n ∈ s.outline.nodes) (hm : m ∈ s.outline.nodes)
    (hchecked : n.state.checked = true ∧ m.state.checked = true)
    (hrelevant : n.payload.relevant = true ∧ m.payload.relevant = true) (j : Judgment) :
    ∃ s' touched touched', s.edit ⟨n.id, .judge j⟩ = (s', .ok touched) ∧
      s.edit ⟨m.id, .judge j⟩ = (s', .ok touched') ∧
      touched.affected.Perm touched'.affected ∧ touched.visible.Perm touched'.visible := by
  have hperm := judgmentReach_perm hn hm hchecked hrelevant
  have hmake : (Change.judge j).make s.outline (s.judgmentReach m) =
      (Change.judge j).make s.outline (s.judgmentReach n) :=
    Change.make_congr (.judge j) fun id _ => hperm.mem_iff.symm
  have hedit := edit_judge (Outline.node?_of_mem hm) j
  rw [hmake] at hedit
  exact ⟨_, _, _, edit_judge (Outline.node?_of_mem hn) j, hedit, hperm, hperm.filter _⟩

/-- The two checked loops are reached in different orders, and judged the same. -/
theorem judge_same_of_checked_pair :
    let first := Sample.loopNode Sample.firstId "DO i" true
    let second := Sample.loopNode Sample.secondId "do j" true
    first ∈ Sample.checkedPair.outline.nodes ∧ second ∈ Sample.checkedPair.outline.nodes ∧
    Sample.checkedPair.judgmentReach first = [Sample.secondId, Sample.firstId] ∧
    Sample.checkedPair.judgmentReach second = [Sample.firstId, Sample.secondId] ∧
    ∃ s' touched touched',
      Sample.checkedPair.edit ⟨Sample.firstId, .judge (.judged "Kernel")⟩ = (s', .ok touched) ∧
      Sample.checkedPair.edit ⟨Sample.secondId, .judge (.judged "Kernel")⟩ = (s', .ok touched') ∧
      touched.affected.Perm touched'.affected := by
  intro first second
  have hfirst : first ∈ Sample.checkedPair.outline.nodes := .tail _ (.head _)
  have hsecond : second ∈ Sample.checkedPair.outline.nodes := .tail _ (.tail _ (.head _))
  obtain ⟨s', touched, touched', he, he', hperm, -⟩ :=
    judge_same_of_checked hfirst hsecond ⟨rfl, rfl⟩ ⟨rfl, rfl⟩ (.judged "Kernel")
  exact ⟨hfirst, hsecond, by decide, by decide, s', touched, touched', he, he', hperm⟩

end Session

end LoopSurvey
