import LoopSurvey.Proofs.Viewer.Work
import LoopSurvey.Sample.Pair
import LoopSurvey.Viewer.Offline
/-!
# The journal tells what was done

A desk works on a session and keeps a journal. Whatever keys are pressed and whatever falls due, the
entries kept, replayed on the outline that was loaded, give the labels and the checks of the outline as
it is now (`replay_run`): no change goes without its entry, no entry without its change, and each lists
the nodes that its change was made to.
-/

namespace LoopSurvey

/-- What a handler asks to journal, replayed on an outline like the one before, gives one like the one
after. The judgments that are cycled through have to be ones that their names stand for. -/
theorem Does.alike_replay {dialog : Option Dialog} {w w' : Work} (h : Does dialog w w')
    (named : ∀ j ∈ w.context.judgments, ∃ name, j = .ofName name) (hout : w.outbox = []) {o : Outline}
    (ho : o.Alike w.session.outline) :
    (Journal.replay o (w'.outbox.filterMap Request.journalled?)).Alike w'.session.outline := by
  cases h with
  | browses hb =>
    obtain ⟨operations, hops, hs⟩ := hb.exists_operations
    obtain ⟨requests, hquiet, hrequests⟩ := hb.exists_requests
    have hentries : ∀ e ∈ w'.outbox.filterMap Request.journalled?, e.action.isQuiet = true := by
      intro e he
      rw [hrequests, hout, List.nil_append] at he
      obtain ⟨r, hr, hre⟩ := List.mem_filterMap.1 he
      have hq := hquiet r hr
      rw [Request.isQuiet, hre] at hq
      exact hq
    rw [Journal.replay_of_isQuiet hentries, hs]
    exact ho.trans (w.session.alike_run hops)
  | edits e touched he known _ hrequests =>
    rw [hrequests, hout]
    have hnamed : ∀ j, e.change = .judge j → ∃ name, j = .ofName name := fun j hj => named j (known j hj)
    exact (ho.replayEntry _).trans (Journal.alike_replay_edit w.context.identity hnamed he)
  | jumps node callee candidates _ hs _ hrequests =>
    rw [hrequests, hout, hs]
    exact ho.trans (w.session.alike_jumpToCandidates node candidates)

/-- The service keeps the entries that it is asked to, in order. -/
theorem OfflineService.journal_foldl_take (s : OfflineService) (requests : List Request) :
    (requests.foldl take s).journal = s.journal ++ requests.filterMap Request.journalled? := by
  induction requests generalizing s with
  | nil => exact (List.append_nil _).symm
  | cons r requests ih =>
    rw [List.foldl_cons, ih]
    cases r with
    | journal entry =>
      have hentry : (Request.journal entry).journalled? = some entry := rfl
      rw [List.filterMap_cons_some hentry]
      exact List.append_assoc _ [entry] _
    | source request =>
      have hentry : (Request.source request).journalled? = none := rfl
      rw [List.filterMap_cons_none hentry]
      rfl

namespace Desk

/-- The journal tells how the outline of a desk came from another one, and nothing waits to be sent. -/
structure Tells (context : ViewerContext) (o : Outline) (d : Desk) : Prop where
  context_eq : d.viewer.context = context
  outbox_eq : d.viewer.outbox = []
  alike : (Journal.replay o d.service.journal).Alike d.viewer.session.outline

variable {context : ViewerContext} {o : Outline} {d : Desk}

/-- What a handler asks for is handed over together with what it has done. -/
theorem Tells.handOver (h : d.Tells context o)
    (named : ∀ j ∈ context.judgments, ∃ name, j = .ofName name) {dialog : Option Dialog} {v : Viewer}
    (hv : Does dialog d.viewer.work v.work) : (d.handOver v).Tells context o where
  context_eq := hv.context_eq.trans h.context_eq
  outbox_eq := rfl
  alike := by
    have hcontext : d.viewer.work.context = context := h.context_eq
    have hreplay := hv.alike_replay (hcontext.symm ▸ named) h.outbox_eq h.alike
    unfold Desk.handOver
    dsimp only
    rw [OfflineService.journal_foldl_take, Journal.replay_append]
    exact hreplay

/-- What has arrived is taken in without a trace in the work or the journal. -/
theorem Tells.receiveAll (h : d.Tells context o) :
    Tells context o
      { viewer := d.viewer.receiveAll d.service.pending, service := { d.service with pending := [] } } := by
  have hwork : (d.viewer.receiveAll d.service.pending).work = d.viewer.work :=
    d.viewer.work_receiveAll d.service.pending
  have hsession : (d.viewer.receiveAll d.service.pending).session = d.viewer.session :=
    congrArg Work.session hwork
  refine ⟨(congrArg Work.context hwork).trans h.context_eq, (congrArg Work.outbox hwork).trans h.outbox_eq, ?_⟩
  dsimp only
  rw [hsession]
  exact h.alike

theorem tells_start (context : ViewerContext) (s : Session) (source? : String → Option String)
    (failure : Option String) :
    Tells context s.outline { viewer := .start context s, service := { source?, failure } } := by
  have hwork := Viewer.work_start context s
  have hsession : (Viewer.start context s).session = s.makeReady.1 := congrArg Work.session hwork
  refine ⟨congrArg Work.context hwork, congrArg Work.outbox hwork, ?_⟩
  dsimp only
  rw [hsession]
  exact s.alike_makeReady

theorem Tells.step (h : d.Tells context o)
    (named : ∀ j ∈ context.judgments, ∃ name, j = .ofName name) (event : DeskEvent) :
    (d.step event).Tells context o := by
  cases event with
  | key now key => exact h.handOver named (d.viewer.does_step (.key now key))
  | tick now =>
    have hdoes : Does none d.viewer.work (d.viewer.fireDue now).work :=
      .browses (d.viewer.browses_fireDue now)
    exact (h.handOver named hdoes).receiveAll

theorem Tells.run (h : d.Tells context o)
    (named : ∀ j ∈ context.judgments, ∃ name, j = .ofName name) (events : List DeskEvent) :
    (d.run events).Tells context o := by
  induction events generalizing d with
  | nil => exact h
  | cons event events ih => exact ih (h.step named event)

/-- **The journal tells what was done.** Whatever keys are pressed and whatever falls due, the entries
kept, replayed on the outline that was loaded, give every node the label and the check that it has now,
provided the judgments that are cycled through are ones that their names stand for. -/
theorem replay_run (context : ViewerContext)
    (named : ∀ j ∈ context.judgments, ∃ name, j = .ofName name) (s : Session)
    (source? : String → Option String) (failure : Option String) (events : List DeskEvent) :
    let d := ({ viewer := Viewer.start context s, service := { source?, failure } } : Desk).run events
    (Journal.replay s.outline d.service.journal).nodes.map Node.record =
      d.viewer.session.outline.nodes.map Node.record := by
  intro d
  have hd : d.Tells context s.outline := (tells_start context s source? failure).run named events
  exact hd.alike.map_nodes fun _ => rfl

/-- The two loops, with a service that refuses every entry: a check, two judgments, a comment, a level
and a search. -/
theorem replay_run_pair :
    (∀ j ∈ [Judgment.ofName "Kernel", .ofName ""], ∃ name, j = .ofName name) ∧
    let d := (⟨Viewer.start { judgments := [.ofName "Kernel", .ofName ""] } Sample.pairSession,
        { failure := some "refused" }⟩ : Desk).run
      [.key 0 .down, .key 1 (.char 'J'), .key 2 .down, .tick 3, .key 4 .enter, .key 5 (.char ' '),
        .key 6 (.char 'J'), .key 7 (.char 'c'), .key 8 (.char 'x'), .key 9 .enter, .key 10 (.char 'L'),
        .key 11 (.char '/'), .key 12 (.char 'd'), .tick 900]
    (Journal.replay Sample.pairOutline d.service.journal).nodes.map Node.record =
      d.viewer.session.outline.nodes.map Node.record := by
  have named : ∀ j ∈ [Judgment.ofName "Kernel", .ofName ""], ∃ name, j = .ofName name := by
    intro j hj
    rcases List.mem_pair.1 hj with rfl | rfl
    · exact ⟨_, rfl⟩
    · exact ⟨_, rfl⟩
  exact ⟨named, replay_run _ named Sample.pairSession _ _ _⟩

end Desk

end LoopSurvey
