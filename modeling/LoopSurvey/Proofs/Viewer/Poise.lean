import LoopSurvey.Proofs.Viewer.Response
import LoopSurvey.Sample.Pair
/-!
# When keywords wait and dialogs ask

A keyword waits only while one is typed; nothing is asked while a keyword is typed; and while a dialog
asks whether to jump there is no active result (`Viewer.Poised`). A handler is called at rest
(`Control.AtRest`), which most effects keep; those that open a dialog or start typing leave a poised
viewer all the same (`Effect.poised`). So every key and every tick keeps a viewer poised
(`Poised.step`).
-/

namespace LoopSurvey

/-- A value that is taken has waited, and nothing waits after it. -/
theorem Debouncer.pending_of_takeDue {d d' : Debouncer α} {now : Nat} {value : α}
    (h : d.takeDue now = (d', some value)) : d.pending ≠ none ∧ d'.pending = none := by
  unfold takeDue at h
  split at h
  · next hp =>
    split_ifs at h
    · obtain ⟨rfl, -⟩ := Prod.mk.inj h
      exact ⟨by simp [hp], rfl⟩
    · cases (Prod.mk.inj h).2
  · cases h

namespace Control

/-- No dialog is open, unless it is a failure to be acknowledged. -/
def Unasked (c : Control) : Prop := c.dialog = none ∨ ∃ message, c.dialog = some (.alert message)

/-- A keyword waits only while one is typed. -/
def Attended (c : Control) : Prop := c.waiting.pending ≠ none → c.mode = .editing

/-- No keyword waits or is typed, and no dialog is open. -/
structure AtRest (c : Control) : Prop where
  pending_eq : c.waiting.pending = none
  mode_ne : c.mode ≠ .editing
  dialog_eq : c.dialog = none

end Control

namespace Viewer

/-- What waits, what is typed and what is asked go together. -/
structure Poised (v : Viewer) : Prop where
  attended : v.control.Attended
  unasked_of_editing : v.control.mode = .editing → v.control.Unasked
  results_of_jump : ∀ node callee candidates,
    v.control.dialog = some (.jumpOrOpen node callee candidates) → v.session.results = {}

variable {call : Call} {v v' : Viewer}

/-- Where nothing is asked, nothing is asked about a jump. -/
theorem poised_of_unasked (h : v.control.Unasked) (hp : v.control.Attended) : v.Poised where
  attended := hp
  unasked_of_editing _ := h
  results_of_jump node callee candidates hd := by
    rcases h with hn | ⟨message, hm⟩
    · cases hn.symm.trans hd
    · cases hm.symm.trans hd

theorem poised_of_atRest (h : v.control.AtRest) : v.Poised :=
  poised_of_unasked (Or.inl h.dialog_eq) fun hp => absurd h.pending_eq hp

theorem Poised.pending_eq (h : v.Poised) (hm : v.mode ≠ .editing) : v.waiting.pending = none :=
  Classical.not_not.1 fun hp => hm (h.attended hp)

/-- A poised viewer that neither types nor asks is at rest. -/
theorem Poised.atRest (h : v.Poised) (hd : v.dialog = none) (hm : v.mode ≠ .editing) :
    v.control.AtRest where
  pending_eq := h.pending_eq hm
  mode_ne := hm
  dialog_eq := hd

theorem Poised.congr (h : v.Poised) (hv : v'.core = v.core) : v'.Poised := by
  have hcontrol : v'.control = v.control := congrArg Core.control hv
  have hsession : v'.session = v.session := congrArg (fun c : Core => c.work.session) hv
  constructor
  · rw [hcontrol]
    exact h.attended
  · rw [hcontrol]
    exact h.unasked_of_editing
  · rw [hcontrol, hsession]
    exact h.results_of_jump

/-- Opening the next alert, or no dialog, changes the dialog alone. -/
theorem control_nextDialog (v : Viewer) :
    v.nextDialog.control = { v.control with dialog := v.nextDialog.dialog } := by
  unfold nextDialog
  split <;> rfl

theorem attended_nextDialog {v : Viewer} (h : v.control.Attended) : v.nextDialog.control.Attended := by
  rw [control_nextDialog]
  exact h

theorem unasked_nextDialog (v : Viewer) : v.nextDialog.control.Unasked := by
  unfold nextDialog
  split
  · exact Or.inl rfl
  · exact Or.inr ⟨_, rfl⟩

/-! ## Effects -/

theorem Searches.control_eq {keyword : String} (h : v.Searches keyword v') : v'.control = v.control := by
  cases h with
  | steps node => rfl
  | anew h => exact h.control_eq

/-- Leaving the keyword changes the mode alone. -/
theorem control_stopTyping (v : Viewer) : v.stopTyping.control = { v.control with mode := v.restingMode } := rfl

/-- Showing a result only moves from one resting mode to another. -/
theorem Presents.atRest {s : Session} {hits : List NodeId} (h : v.Presents s hits v') (hr : v.control.AtRest) :
    v'.control.AtRest := by
  rw [h.control_eq]
  refine ⟨hr.pending_eq, ?_, hr.dialog_eq⟩
  change v'.mode ≠ .editing
  rw [h.mode_eq]
  split_ifs
  · exact fun hm => nomatch hm
  · exact hr.mode_ne

/-- A dialog that does not ask about a jump may open at any time at rest. -/
theorem poised_ask (hr : v.control.AtRest) {d : Dialog}
    (hd : ∀ node callee candidates, d ≠ .jumpOrOpen node callee candidates) : Poised { v with dialog := some d } where
  attended hp := absurd hr.pending_eq hp
  unasked_of_editing hm := absurd hm hr.mode_ne
  results_of_jump node callee candidates he := absurd (Option.some.inj he) (hd node callee candidates)

/-- At rest, every handler leaves a poised viewer. -/
theorem Effect.poised (h : v.Effect call v') (hr : v.control.AtRest) : v'.Poised := by
  cases h with
  | looks h | untypes h | unfolds _ h | loses _ _ h | cycles _ _ h =>
    apply poised_of_atRest
    rw [h.control_eq]
    exact hr
  | edits | steps | idles => exact poised_of_atRest hr
  | clears => exact poised_of_atRest ⟨rfl, fun hm => (nomatch hm), hr.dialog_eq⟩
  | jumps _ h => exact poised_of_atRest (h.atRest hr)
  | takes _ h => exact poised_of_atRest (h.atRest hr)
  | opens hcall hd =>
    refine poised_ask hr fun _ _ _ he => ?_
    rw [he] at hd
    cases hd
  | asks hcall hid h =>
    -- asking about a jump has dropped the active result
    exact ⟨fun hp => absurd hr.pending_eq hp, fun hm => absurd hm hr.mode_ne, fun _ _ _ _ => Session.results_of_ask h⟩
  | begins => exact poised_of_unasked (Or.inl hr.dialog_eq) fun _ => rfl

/-- A key for the keyword leaves it typed, or nothing waits any more. -/
theorem Spells.poised (h : v.Spells v') (hp : v.Poised) (hd : v.dialog = none) (hm : v.mode = .editing) :
    v'.Poised := by
  cases h with
  | stays => exact hp
  | retypes query waiting => exact poised_of_unasked (Or.inl hd) fun _ => hm
  | leaves => exact poised_of_unasked (Or.inl hd) fun hp => absurd rfl hp
  | accepts h =>
    apply poised_of_unasked <;> rw [control_stopTyping, h.control_eq]
    · exact Or.inl hd
    · exact fun hp => absurd rfl hp

/-- A keyword that is taken no longer waits, and nothing is asked where one did. -/
theorem Poised.fires (hp : v.Poised) {now : Nat} {waiting : Debouncer String} {keyword : String}
    (hdue : v.waiting.takeDue now = (waiting, some keyword))
    (h : ({ v with waiting } : Viewer).Searches keyword v') : v'.Poised := by
  obtain ⟨hpending, hnone⟩ := Debouncer.pending_of_takeDue hdue
  have hm : v.control.mode = .editing := hp.attended hpending
  refine poised_of_unasked ?_ fun hwaits => absurd ?_ hwaits
  · rw [h.control_eq]
    exact hp.unasked_of_editing hm
  · rw [h.control_eq]
    exact hnone

/-! ## Every key and every tick -/

/-- Where a dialog is open that is no failure, the viewer is at rest but for the dialog. -/
theorem Poised.atRest_of_asked (hp : v.Poised) {d : Dialog} (hd : v.dialog = some d)
    (halert : ∀ message, d ≠ .alert message) : ({ v with dialog := none } : Viewer).control.AtRest := by
  have hm : v.mode ≠ .editing := by
    intro hm
    rcases hp.unasked_of_editing hm with hn | ⟨message, hmessage⟩
    · cases hd.symm.trans hn
    · exact halert message (Option.some.inj (hd.symm.trans hmessage))
  exact ⟨hp.pending_eq hm, hm, rfl⟩

theorem Poised.nextDialog (hp : v.Poised) : v.nextDialog.Poised :=
  poised_of_unasked (unasked_nextDialog v) (attended_nextDialog hp.attended)

theorem Poised.receiveAll (hp : v.Poised) (arrivals : List Arrival) : (v.receiveAll arrivals).Poised := by
  have hreceived : (arrivals.foldl receive v).Poised := hp.congr (v.core_foldl_receive arrivals)
  unfold Viewer.receiveAll showAlert
  split_ifs
  · exact hreceived.nextDialog
  · exact hreceived

theorem Response.poised {event : ViewerEvent} (h : v.Response event v') (hp : v.Poised) : v'.Poised := by
  cases h with
  | helps | reads => exact hp.congr rfl
  | @asks now key hhelp d d' hd h =>
    have halert : ∀ message, d ≠ .alert message := by
      rintro message rfl
      cases h
    have hrest := hp.atRest_of_asked hd halert
    refine ⟨hp.attended, fun hm => absurd hm hrest.mode_ne, fun node callee candidates he => ?_⟩
    cases Option.some.inj he
    cases h
    exact hp.results_of_jump node callee candidates hd
  | dismisses =>
    -- the next failure, if there is one, opens beside a keyword that may still wait
    exact poised_of_unasked (unasked_nextDialog _) (attended_nextDialog hp.attended)
  | closes now key hhelp hd halert h => exact (h.poised (hp.atRest_of_asked hd halert)).nextDialog
  | spells now key hhelp hd hm h => exact h.poised hp hd hm
  | scrolls now key hhelp hd hpane h => exact hp.congr (core_of_pressSource? h)
  | moves now key hpasses h => exact poised_of_atRest (h.control_eq ▸ hp.atRest hpasses.dialog_eq hpasses.mode_ne)
  | performs now key hpasses hmotion hcommand h => exact h.poised (hp.atRest hpasses.dialog_eq hpasses.mode_ne)
  | waits now arrivals => exact hp.receiveAll arrivals
  | fires now arrivals hdue h => exact (hp.fires hdue h).receiveAll arrivals

/-- Every key and every tick keeps a viewer poised. -/
theorem Poised.step (h : v.Poised) (event : ViewerEvent) : (v.step event).Poised := (v.response_step event).poised h

/-- A viewer starts at rest. -/
theorem poised_start (context : ViewerContext) (s : Session) : (start context s).Poised := by
  apply poised_of_atRest
  obtain ⟨tree, targetOrder, history, he⟩ := start_eq context s
  rw [he]
  exact ⟨rfl, fun hm => (nomatch hm), rfl⟩

theorem poised_run (context : ViewerContext) (s : Session) (events : List ViewerEvent) :
    ((start context s).run events).Poised :=
  run_keeps (fun _ event _ hv => hv.step event) (poised_start context s)

/-! ## Ticks while no keyword is typed -/

theorem fireDue_of_pending_eq_none (h : v.waiting.pending = none) (now : Nat) : v.fireDue now = v := by
  unfold fireDue Debouncer.takeDue
  rw [h]

/-- **Only a keyword that is typed is searched for.** Unless a keyword is typed none waits, and a tick, whatever the
time is and whatever arrives, changes nothing in the session and asks for nothing. -/
theorem session_tick_of_mode_ne (context : ViewerContext) (s : Session) (events : List ViewerEvent) :
    let v := (start context s).run events
    v.mode ≠ .editing → v.waiting.isPending = false ∧ ∀ now arrivals,
      (v.tick now arrivals).session = v.session ∧ (v.tick now arrivals).outbox = v.outbox := by
  intro v hm
  have hpending : v.waiting.pending = none := (poised_run context s events).pending_eq hm
  refine ⟨congrArg Option.isSome hpending, fun now arrivals => ?_⟩
  have hwork : (v.tick now arrivals).work = v.work := by
    unfold tick
    rw [fireDue_of_pending_eq_none hpending, work_receiveAll]
  exact ⟨congrArg Work.session hwork, congrArg Work.outbox hwork⟩

/-- A letter is typed and left before it is due, so nothing comes of it. -/
theorem session_tick_of_mode_ne_pair :
    let v := (start {} Sample.pairSession).run [.key 0 (.char '/'), .key 10 (.char 'd'), .key 20 .escape]
    v.mode ≠ .editing ∧ v.query = "d" ∧ (v.tick 500 [.alert "refused"]).session.results.nodes = [] := by
  intro v
  have hm : v.mode ≠ .editing := by decide
  obtain ⟨-, htick⟩ := session_tick_of_mode_ne {} Sample.pairSession _ hm
  refine ⟨hm, rfl, ?_⟩
  rw [(htick 500 _).1]
  rfl

end Viewer

end LoopSurvey
