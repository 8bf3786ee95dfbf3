import Mathlib.Tactic.SplitIfs
import LoopSurvey.Proofs.Session.Operation
import LoopSurvey.Viewer.Press
/-!
# Work and control

Of the state of a viewer, its work outlasts what is on the screen (`Viewer.work`), and its control
decides what a key or a tick means (`Viewer.control`). Panes, the help, and what arrives change little else than
what they show (`pressHelp_eq`, `pressTextTree_eq`, `eq_of_pressSource?`, `receive_eq`), so they touch neither.
-/

namespace LoopSurvey

/-- What outlasts the screen. -/
structure Work where
  context : ViewerContext
  session : Session
  outbox : List Request

/-- What decides where a key goes and what a tick searches for. -/
structure Control where
  mode : SearchMode
  waiting : Debouncer String
  dialog : Option Dialog

/-- Work and control. -/
structure Core where
  work : Work
  control : Control

namespace Viewer

/-- The work of a viewer. -/
def work (v : Viewer) : Work := ⟨v.context, v.session, v.outbox⟩

/-- The control of a viewer. -/
def control (v : Viewer) : Control := ⟨v.mode, v.waiting, v.dialog⟩

/-- Work and control of a viewer. -/
def core (v : Viewer) : Core := ⟨v.work, v.control⟩

variable (v : Viewer)

/-! ## What searches, panes and arrivals change -/

/-- What a search came to is shown in the tree pane, and journalled. -/
theorem applyOutcome_eq (outcome : SearchOutcome) : ∃ tree outbox,
    v.applyOutcome outcome = { v with tree, outbox } := by
  unfold applyOutcome
  split
  · exact ⟨_, v.outbox, rfl⟩
  · exact ⟨_, v.outbox, rfl⟩
  · dsimp only
    split <;> exact ⟨_, _, rfl⟩

/-- A search changes the session, the tree pane and what is asked for. -/
theorem runSearch_eq (keyword : String) : ∃ tree outbox,
    v.runSearch keyword = { v with session := (v.session.search keyword v.scope).1, tree, outbox } := by
  unfold runSearch
  dsimp only
  exact applyOutcome_eq _ _

theorem pressHelp_eq (key : Key) : ∃ help quit, v.pressHelp key = { v with help, quit } := by
  unfold pressHelp
  split
  · exact ⟨_, v.quit, rfl⟩
  · split_ifs
    · exact ⟨_, v.quit, rfl⟩
    · exact ⟨v.help, _, rfl⟩
    · exact ⟨v.help, v.quit, rfl⟩

theorem pressTextTree_eq (pane : TextPane) (key : Key) : ∃ textTree,
    v.pressTextTree pane key = { v with textTree } := by
  unfold pressTextTree
  split
  · exact ⟨_, rfl⟩
  · split_ifs
    · exact ⟨_, rfl⟩
    · exact ⟨v.textTree, rfl⟩

theorem followMark_eq (pane : SourcePane) : ∃ source notice, v.followMark pane = { v with source, notice } := by
  unfold followMark
  split
  · exact ⟨v.source, v.notice, rfl⟩
  · exact ⟨_, v.notice, rfl⟩
  · exact ⟨v.source, _, rfl⟩
  · exact ⟨v.source, _, rfl⟩

theorem eq_of_pressSource? {v v' : Viewer} {pane : SourcePane} {key : Key}
    (h : v.pressSource? pane key = some v') : ∃ source notice, v' = { v with source, notice } := by
  unfold pressSource? at h
  split at h
  · cases h
    exact ⟨_, v.notice, rfl⟩
  · split_ifs at h <;> cases h
    · exact ⟨_, v.notice, rfl⟩
    · exact ⟨_, v.notice, rfl⟩
    · exact v.followMark_eq pane

theorem nextDialog_eq : ∃ dialog alerts, v.nextDialog = { v with dialog, alerts } := by
  unfold nextDialog
  split
  · exact ⟨_, v.alerts, rfl⟩
  · exact ⟨_, _, rfl⟩

theorem receive_eq (arrival : Arrival) : ∃ source alerts notice,
    v.receive arrival = { v with source, alerts, notice } := by
  cases arrival with
  | alert message => exact ⟨v.source, _, v.notice, rfl⟩
  | loaded request text =>
    unfold receive receiveSource
    dsimp only
    split
    · exact ⟨v.source, v.alerts, v.notice, rfl⟩
    · split
      · exact ⟨_, v.alerts, v.notice, rfl⟩
      · exact ⟨_, v.alerts, _, rfl⟩
  | failed request =>
    unfold receive
    dsimp only
    split_ifs
    · exact ⟨_, v.alerts, v.notice, rfl⟩
    · exact ⟨v.source, v.alerts, v.notice, rfl⟩

theorem foldl_receive_eq (arrivals : List Arrival) : ∃ source alerts notice,
    arrivals.foldl receive v = { v with source, alerts, notice } := by
  induction arrivals generalizing v with
  | nil => exact ⟨v.source, v.alerts, v.notice, rfl⟩
  | cons arrival arrivals ih =>
    obtain ⟨source, alerts, notice, he⟩ := v.receive_eq arrival
    rw [List.foldl_cons, he]
    exact ih _

/-- Taking in what arrives changes what is shown of it, and may open a failure. -/
theorem receiveAll_eq (arrivals : List Arrival) : ∃ dialog source alerts notice,
    v.receiveAll arrivals = { v with dialog, source, alerts, notice } := by
  obtain ⟨source, alerts, notice, he⟩ := v.foldl_receive_eq arrivals
  unfold receiveAll showAlert
  rw [he]
  split_ifs
  · obtain ⟨dialog, alerts', hnext⟩ := nextDialog_eq { v with source, alerts, notice }
    exact ⟨dialog, source, alerts', notice, hnext⟩
  · exact ⟨v.dialog, source, alerts, notice, rfl⟩

/-! ## What touches neither work nor control -/

theorem core_of_pressSource? {v v' : Viewer} {pane : SourcePane} {key : Key}
    (h : v.pressSource? pane key = some v') : v'.core = v.core := by
  obtain ⟨source, notice, rfl⟩ := eq_of_pressSource? h
  rfl

theorem core_foldl_receive (arrivals : List Arrival) : (arrivals.foldl receive v).core = v.core := by
  obtain ⟨source, alerts, notice, he⟩ := v.foldl_receive_eq arrivals
  rw [he]
  rfl

/-! ## What touches control alone -/

@[simp] theorem work_nextDialog : v.nextDialog.work = v.work := by
  obtain ⟨dialog, alerts, he⟩ := v.nextDialog_eq
  rw [he]
  rfl

@[simp] theorem work_receiveAll (arrivals : List Arrival) : (v.receiveAll arrivals).work = v.work := by
  obtain ⟨dialog, source, alerts, notice, he⟩ := v.receiveAll_eq arrivals
  rw [he]
  rfl

/-! ## Starts and runs -/

/-- A viewer starts on the session made ready, and but for the tree pane with nothing to show. -/
theorem start_eq (context : ViewerContext) (s : Session) : ∃ tree targetOrder history,
    start context s = { context, session := { s with targetOrder, history }, tree } := by
  obtain ⟨targetOrder, history, hready⟩ := s.makeReady_eq
  unfold start
  generalize s.makeReady = ready at hready ⊢
  obtain ⟨session, last⟩ := ready
  dsimp only at hready
  subst hready
  cases last <;> exact ⟨_, targetOrder, history, rfl⟩

/-- A viewer starts on the session made ready, and asks for nothing. -/
theorem work_start (context : ViewerContext) (s : Session) :
    (start context s).work = ⟨context, s.makeReady.1, []⟩ := by
  unfold start
  dsimp only
  split <;> rfl

/-- What each event of a run keeps, the run keeps. -/
theorem run_keeps {P : Viewer → Prop} {v : Viewer} {events : List ViewerEvent}
    (hstep : ∀ v, ∀ event ∈ events, P v → P (v.step event)) (h : P v) : P (v.run events) := by
  induction events generalizing v with
  | nil => exact h
  | cons event events ih =>
    have hrest : ∀ v, ∀ e ∈ events, P v → P (v.step e) := fun v e he => hstep v e (List.mem_cons_of_mem event he)
    exact ih hrest (hstep v event List.mem_cons_self h)

theorem run_concat (events : List ViewerEvent) (event : ViewerEvent) :
    v.run (events ++ [event]) = (v.run events).step event := by
  simp [run]

end Viewer

end LoopSurvey
