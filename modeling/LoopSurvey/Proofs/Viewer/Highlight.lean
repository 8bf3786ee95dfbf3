import LoopSurvey.Proofs.Session.Highlight
import LoopSurvey.Proofs.Viewer.Poise
import LoopSurvey.Proofs.Viewer.Work
/-!
# The highlighted rows are the active result

Whatever keys are pressed, whatever falls due and whatever arrives, the nodes that a viewer highlights
are those of its active result (`selected_iff_mem_results`). The jump that a dialog has asked about does
not drop the result before; it need not, since a poised viewer has none while it asks
(`Poised.coherent_step`).
-/

namespace LoopSurvey.Viewer

variable {v : Viewer}

/-- Every key and every tick keeps the session of a poised viewer coherent. -/
theorem Poised.coherent_step (h : v.Poised) (hs : v.session.Coherent) (event : ViewerEvent) :
    (v.step event).session.Coherent := by
  cases v.does_step event with
  | browses hb =>
    obtain ⟨operations, -, he⟩ := hb.exists_operations
    have hrun : (v.step event).session = v.session.run operations := he
    rw [hrun]
    exact hs.run operations
  | edits e touched he =>
    have hedit : (v.step event).session = v.session.operate (.edit e) := (congrArg Prod.fst he).symm
    rw [hedit]
    exact hs.edit e
  | jumps node callee candidates hd he =>
    have hr : v.session.results = {} := h.results_of_jump node callee candidates hd
    have hjump : (v.step event).session = (v.session.jumpToCandidates node candidates).1 := he
    rw [hjump]
    exact hs.jumpToCandidates hr node candidates

/-- A run keeps a viewer poised and its session coherent. -/
theorem Poised.run (h : v.Poised) (hs : v.session.Coherent) (events : List ViewerEvent) :
    (v.run events).Poised ∧ (v.run events).session.Coherent :=
  run_keeps (P := fun v => v.Poised ∧ v.session.Coherent)
    (fun _ event _ hv => ⟨hv.1.step event, hv.1.coherent_step hv.2 event⟩) ⟨h, hs⟩

/-- **The highlighted rows are the active result**, whatever happens to a viewer that starts with
nothing selected; and there is no result while it asks about a jump. -/
theorem selected_iff_mem_results (context : ViewerContext) (o : Outline) (t : Tables)
    (h : ∀ n ∈ o.nodes, n.state.selected = false) (events : List ViewerEvent) :
    let v := (start context { outline := o, tables := t }).run events
    (∀ id, id ∈ v.session.outline.selected ↔ id ∈ v.session.results.nodes) ∧
    (∀ node callee candidates, v.dialog = some (.jumpOrOpen node callee candidates) →
      v.session.results = {}) := by
  intro v
  have hstart : (start context { outline := o, tables := t }).session.Coherent := by
    have hsession : (start context { outline := o, tables := t }).session = _ :=
      congrArg Work.session (work_start context { outline := o, tables := t })
    rw [hsession]
    exact (Session.coherent_fresh t h).makeReady
  obtain ⟨hpoised, hcoherent⟩ := (poised_start context { outline := o, tables := t }).run hstart events
  exact ⟨hcoherent.mem_selected_iff, hpoised.results_of_jump⟩

/-- The two loops: a keyword is typed and found when it falls due while a failure arrives, which the
next key acknowledges; it is accepted, a judgment is given, and the jump to the callee of the first hit
is asked about and taken. -/
theorem selected_iff_mem_results_pair :
    (∀ n ∈ Sample.pairOutline.nodes, n.state.selected = false) ∧
    let v := (start { judgments := [.judged "Kernel"] } Sample.pairSession).run
      [.key 0 (.char '/'), .key 10 (.char 'd'), .tick 500 [.alert "refused"], .key 510 .enter,
        .key 520 .enter, .key 530 (.char 'J'), .key 540 (.char 'o'), .key 550 (.char 'j')]
    (∀ id, id ∈ v.session.outline.selected ↔ id ∈ v.session.results.nodes) ∧
    (∀ node callee candidates, v.dialog = some (.jumpOrOpen node callee candidates) →
      v.session.results = {}) := by
  have h : ∀ n ∈ Sample.pairOutline.nodes, n.state.selected = false := by decide
  exact ⟨h, selected_iff_mem_results _ Sample.pairOutline Sample.pairTables h _⟩

end LoopSurvey.Viewer
