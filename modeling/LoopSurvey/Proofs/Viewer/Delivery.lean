import LoopSurvey.Proofs.Viewer.Alerts
import LoopSurvey.Proofs.Viewer.Poise
/-!
# Failures in order

Every failure that arrives is shown until a key dismisses it, and failures are shown in the order in which
they arrive. Each key and each tick keeps the balance of what arrives, what is dismissed, and what is
shown or waits (`Response.undismissed`), so a whole run does (`undismissed_run`). An open dialog takes every key
that no help covers: it stays open in a later state (`Dialog.Becomes`), or it closes and the failure
that has waited longest is shown (`Response.dialog_of_isAnswer`). Nothing else replaces it
(`Response.dialog_of_not_isAnswer`), and no handler that runs while it is answered opens another one
(`dialog_answerDialog`).
-/

namespace LoopSurvey

/-- The failure that an arrival reports. -/
def Arrival.failure? : Arrival → Option String
  | .alert message => some message
  | _ => none

/-- The failures that arrive with an event, first one first. -/
def ViewerEvent.failures : ViewerEvent → List String
  | .key .. => []
  | .tick _ arrivals => arrivals.filterMap Arrival.failure?

namespace Dialog

/-- The failure that a dialog shows. -/
def failure? : Dialog → Option String
  | .alert message => some message
  | _ => none

/-- A failure does not stay open. -/
theorem Becomes.failure?_eq {d d' : Dialog} (h : d.Becomes d') : d.failure? = none ∧ d'.failure? = none := by
  cases h <;> exact ⟨rfl, rfl⟩

/-- No dialog that a command opens is a failure. -/
theorem Opens.failure?_eq {s : Session} {d : Dialog} (h : d.Opens s) : d.failure? = none := by
  cases h <;> rfl

end Dialog

namespace Viewer

variable (v : Viewer)

/-- The failure on display. -/
def shownFailure? : Option String := v.dialog.bind Dialog.failure?

/-- The failures that have not been dismissed: the one on display and those that wait. -/
def undismissed : List String := v.shownFailure?.toList ++ v.alerts

/-- Whether an event is a key for the open dialog. Help that is shown takes the keys itself. -/
def IsAnswer : ViewerEvent → Prop
  | .key .. => v.help.shown = false ∧ v.dialog.isSome
  | .tick .. => False

/-- The failure that an event dismisses: a key for the dialog dismisses the one on display. -/
def dismissed : ViewerEvent → List String
  | .key .. => if v.help.shown then [] else v.shownFailure?.toList
  | .tick .. => []

/-- The failures that events dismiss one after the other. -/
def dismissedAlong (v : Viewer) : List ViewerEvent → List String
  | [] => []
  | event :: events => v.dismissed event ++ (v.step event).dismissedAlong events

/-! ## Effects on the dialog -/

section Effects

variable {call : Call} {v v' : Viewer}

theorem Looks.dialog_eq (h : v.Looks v') : v'.dialog = v.dialog := congrArg Control.dialog h.control_eq

theorem Presents.dialog_eq {s : Session} {hits : List NodeId} (h : v.Presents s hits v') : v'.dialog = v.dialog :=
  h.looks.dialog_eq

theorem Searches.dialog_eq {keyword : String} (h : v.Searches keyword v') : v'.dialog = v.dialog :=
  congrArg Control.dialog h.control_eq

theorem Spells.dialog_eq (h : v.Spells v') : v'.dialog = v.dialog := by
  cases h with
  | stays | retypes | leaves => rfl
  | accepts h => exact h.dialog_eq

/-- The dialog after a handler is the one before, or one that a command has opened. -/
theorem Effect.dialog_cases (h : v.Effect call v') : v'.dialog = v.dialog ∨
    (∃ command, call = .command command) ∧ ((∃ d : Dialog, d.Opens v.session ∧ v'.dialog = some d) ∨
      ∃ node callee candidates, v'.dialog = some (.jumpOrOpen node callee candidates)) := by
  cases h with
  | looks h | untypes h | unfolds _ h | loses _ _ h | cycles _ _ h => exact Or.inl h.dialog_eq
  | jumps _ h | takes _ h => exact Or.inl h.dialog_eq
  | edits | steps | clears | begins | idles => exact Or.inl rfl
  | opens hcall hd => exact Or.inr ⟨⟨_, hcall⟩, Or.inl ⟨_, hd, rfl⟩⟩
  | asks hcall => exact Or.inr ⟨⟨_, hcall⟩, Or.inr ⟨_, _, _, rfl⟩⟩

/-- What is done while a dialog is answered opens no other dialog. -/
theorem Effect.dialog_of_answer {d : Dialog} {key : Key} (h : v.Effect (.answer d key) v') : v'.dialog = v.dialog :=
  h.dialog_cases.resolve_right fun ⟨⟨_, hcall⟩, _⟩ => nomatch hcall

theorem dialog_answerDialog (v : Viewer) (d : Dialog) (key : Key) : (v.answerDialog d key).1.dialog = v.dialog := by
  have h := v.answers_answerDialog d key
  generalize v.answerDialog d key = answer at h
  cases h with
  | stays | dismisses => rfl
  | closes halert he => exact he.dialog_of_answer

/-- The failure on display is the same with the same dialog. -/
theorem shownFailure?_of_dialog (h : v'.dialog = v.dialog) : v'.shownFailure? = v.shownFailure? := by
  unfold shownFailure?
  rw [h]

/-- No handler shows a failure. -/
theorem Effect.shownFailure?_eq (h : v.Effect call v') (hnone : v.shownFailure? = none) : v'.shownFailure? = none := by
  rcases h.dialog_cases with hd | ⟨-, ⟨d, hopens, hd⟩ | ⟨node, callee, candidates, hd⟩⟩
  · rwa [shownFailure?_of_dialog hd]
  · rw [shownFailure?, hd]
    exact hopens.failure?_eq
  · rw [shownFailure?, hd]
    rfl

end Effects

/-! ## The dialog that follows -/

/-- The failure that has waited longest is shown, if one waits. -/
theorem dialog_nextDialog : v.nextDialog.dialog = v.alerts.head?.map Dialog.alert := by
  unfold nextDialog
  split
  · next h =>
    rw [h]
    rfl
  · next h =>
    rw [h]
    rfl

theorem alerts_nextDialog : v.nextDialog.alerts = v.alerts.tail := by
  unfold nextDialog
  split
  · next h =>
    rw [h]
    rfl
  · next h =>
    rw [h]
    rfl

/-- Showing the next failure dismisses none, whatever dialog was open. -/
theorem undismissed_nextDialog : v.nextDialog.undismissed = v.alerts := by
  unfold undismissed shownFailure?
  rw [dialog_nextDialog, alerts_nextDialog]
  cases v.alerts <;> rfl

/-! ## Ticks -/

theorem alerts_receive (arrival : Arrival) :
    (v.receive arrival).alerts = v.alerts ++ arrival.failure?.toList := by
  cases arrival with
  | alert message => rfl
  | loaded request text =>
    unfold receive receiveSource
    dsimp only
    split
    · exact (List.append_nil _).symm
    · split
      · exact (List.append_nil _).symm
      · exact (List.append_nil _).symm
  | failed request =>
    unfold receive
    dsimp only
    split_ifs
    · exact (List.append_nil _).symm
    · exact (List.append_nil _).symm

/-- What arrives waits behind what waits already. -/
theorem alerts_foldl_receive (arrivals : List Arrival) :
    (arrivals.foldl receive v).alerts = v.alerts ++ arrivals.filterMap Arrival.failure? := by
  induction arrivals generalizing v with
  | nil => exact (List.append_nil _).symm
  | cons arrival arrivals ih =>
    rw [List.foldl_cons, ih, alerts_receive, List.append_assoc]
    cases h : arrival.failure? with
    | none => rw [List.filterMap_cons_none h, Option.toList_none, List.nil_append]
    | some message => rw [List.filterMap_cons_some h, Option.toList_some, List.singleton_append]

theorem dialog_foldl_receive (arrivals : List Arrival) : (arrivals.foldl receive v).dialog = v.dialog :=
  congrArg (fun c : Core => c.control.dialog) (v.core_foldl_receive arrivals)

/-- A tick leaves an open dialog alone. -/
theorem showAlert_of_dialog {v : Viewer} {d : Dialog} (h : v.dialog = some d) : v.showAlert = v := by
  unfold showAlert
  rw [h]
  rfl

theorem undismissed_showAlert : v.showAlert.undismissed = v.undismissed := by
  unfold showAlert
  cases hd : v.dialog with
  | none =>
    have hshown : v.undismissed = v.alerts := by
      unfold undismissed shownFailure?
      rw [hd]
      rfl
    rw [hshown]
    exact v.undismissed_nextDialog
  | some d => rfl

theorem undismissed_receiveAll (arrivals : List Arrival) :
    (v.receiveAll arrivals).undismissed = v.undismissed ++ arrivals.filterMap Arrival.failure? := by
  unfold receiveAll
  rw [undismissed_showAlert]
  unfold undismissed
  rw [alerts_foldl_receive, ← List.append_assoc]
  congr 2
  exact congrArg Option.toList (shownFailure?_of_dialog (dialog_foldl_receive v arrivals))

/-! ## Every key and every tick -/

section Steps

variable {v v' : Viewer} {event : ViewerEvent}

theorem undismissed_of_shownFailure? (h : v.shownFailure? = none) : v.undismissed = v.alerts := by
  rw [undismissed, h]
  rfl

theorem shownFailure?_of_dialog_eq_none (hd : v.dialog = none) : v.shownFailure? = none := by
  rw [shownFailure?, hd]
  rfl

/-- A key that no help covers dismisses the failure on display, so that those that wait are left. -/
theorem undismissed_of_key (hhelp : v.help.shown = false) (now : Nat) (key : Key) (h : v'.undismissed = v.alerts) :
    v.undismissed ++ (ViewerEvent.key now key).failures = v.dismissed (.key now key) ++ v'.undismissed := by
  rw [h, ViewerEvent.failures, List.append_nil, dismissed, hhelp]
  rfl

/-- Where no failure is on display, a handler that leaves it at that keeps those that wait. -/
theorem undismissed_of_opens (h : v'.shownFailure? = none) (ha : v.aside.Opens v'.aside) : v'.undismissed = v.alerts :=
  (undismissed_of_shownFailure? h).trans ha.alerts_eq

/-- Each event keeps the balance: what has not been dismissed before it and what arrives with it is what it
dismisses and what has not been dismissed after it, in this order. -/
theorem Response.undismissed (h : v.Response event v') :
    v.undismissed ++ event.failures = v.dismissed event ++ v'.undismissed := by
  cases h with
  | helps now key hhelp help quit =>
    rw [dismissed, hhelp, ViewerEvent.failures, List.append_nil]
    rfl
  | asks now key hhelp hd h => exact undismissed_of_key hhelp now key (undismissed_of_shownFailure? h.failure?_eq.2)
  | dismisses now key hhelp hd => exact undismissed_of_key hhelp now key (undismissed_nextDialog _)
  | @closes now key hhelp d hd halert v' h =>
    exact undismissed_of_key hhelp now key (v'.undismissed_nextDialog.trans h.alerts_eq)
  | spells now key hhelp hd hm h =>
    have hnone := (shownFailure?_of_dialog h.dialog_eq).trans (shownFailure?_of_dialog_eq_none hd)
    exact undismissed_of_key hhelp now key (undismissed_of_opens hnone h.aside_opens)
  | reads now key hhelp hd textTree =>
    exact undismissed_of_key hhelp now key (undismissed_of_shownFailure? (shownFailure?_of_dialog_eq_none hd))
  | scrolls now key hhelp hd hp h =>
    obtain ⟨source, notice, rfl⟩ := eq_of_pressSource? h
    exact undismissed_of_key hhelp now key (undismissed_of_shownFailure? (shownFailure?_of_dialog_eq_none hd))
  | moves now key hp h =>
    have hnone := (shownFailure?_of_dialog h.dialog_eq).trans (shownFailure?_of_dialog_eq_none hp.dialog_eq)
    exact undismissed_of_key hp.help_eq now key (undismissed_of_opens hnone h.aside_opens)
  | performs now key hp hmotion hcommand h =>
    have hnone := h.shownFailure?_eq (shownFailure?_of_dialog_eq_none hp.dialog_eq)
    exact undismissed_of_key hp.help_eq now key (undismissed_of_opens hnone h.aside_opens)
  | waits now arrivals => exact (undismissed_receiveAll v arrivals).symm
  | @fires now arrivals waiting keyword hdue v' h =>
    have hsame : v'.undismissed = v.undismissed := by
      rw [Viewer.undismissed, shownFailure?_of_dialog h.dialog_eq, h.alerts_eq]
      rfl
    rw [undismissed_receiveAll, hsame]
    rfl

/-- An event that is no key for the open dialog leaves it alone. -/
theorem Response.dialog_of_not_isAnswer (hr : v.Response event v') {d : Dialog} (hd : v.dialog = some d)
    (h : ¬v.IsAnswer event) : v'.dialog = some d := by
  have hanswers (now : Nat) (key : Key) (hhelp : v.help.shown = false) : v.IsAnswer (.key now key) :=
    ⟨hhelp, by rw [hd]; rfl⟩
  -- a tick takes in what arrives, and shows nothing
  have hreceived {w : Viewer} (hw : w.dialog = some d) (arrivals : List Arrival) :
      (w.receiveAll arrivals).dialog = some d := by
    have hopen : (arrivals.foldl receive w).dialog = some d := (dialog_foldl_receive w arrivals).trans hw
    rw [receiveAll, showAlert_of_dialog hopen]
    exact hopen
  cases hr with
  | helps => exact hd
  | asks now key hhelp | dismisses now key hhelp | closes now key hhelp => exact absurd (hanswers now key hhelp) h
  | spells now key hhelp | reads now key hhelp | scrolls now key hhelp => exact absurd (hanswers now key hhelp) h
  | moves now key hp | performs now key hp => exact absurd (hanswers now key hp.help_eq) h
  | waits now arrivals => exact hreceived hd arrivals
  | fires now arrivals hdue hs => exact hreceived (hs.dialog_eq.trans hd) arrivals

/-- A key for the open dialog leaves it open in a later state, or closes it for the failure that has waited
longest. -/
theorem Response.dialog_of_isAnswer (hr : v.Response event v') {d : Dialog} (hd : v.dialog = some d)
    (h : v.IsAnswer event) :
    (∃ d', d.Becomes d' ∧ v'.dialog = some d' ∧ v'.alerts = v.alerts) ∨
    (v'.dialog = v.alerts.head?.map Dialog.alert ∧ v'.alerts = v.alerts.tail) := by
  cases hr with
  | helps now key hhelp => exact absurd (h.1.symm.trans hhelp) Bool.false_ne_true
  | asks now key hhelp hd' hbecomes =>
    obtain rfl := Option.some.inj (hd.symm.trans hd')
    exact Or.inl ⟨_, hbecomes, rfl, rfl⟩
  | dismisses => exact Or.inr ⟨dialog_nextDialog _, alerts_nextDialog _⟩
  | closes now key hhelp hd' halert he =>
    refine Or.inr ⟨?_, ?_⟩
    · rw [dialog_nextDialog, he.alerts_eq]
    · rw [alerts_nextDialog, he.alerts_eq]
  | spells now key hhelp hnone | reads now key hhelp hnone | scrolls now key hhelp hnone =>
    cases hd.symm.trans hnone
  | moves now key hp | performs now key hp => cases hd.symm.trans hp.dialog_eq
  | waits | fires => cases h

end Steps

/-! ## Whole runs -/

theorem undismissed_run (events : List ViewerEvent) :
    v.undismissed ++ events.flatMap ViewerEvent.failures =
      v.dismissedAlong events ++ (v.run events).undismissed := by
  induction events generalizing v with
  | nil => exact List.append_nil _
  | cons event events ih =>
    calc v.undismissed ++ (event :: events).flatMap ViewerEvent.failures
        = v.undismissed ++ event.failures ++ events.flatMap ViewerEvent.failures := by
          rw [List.flatMap_cons, List.append_assoc]
      _ = v.dismissed event ++ ((v.step event).undismissed ++ events.flatMap ViewerEvent.failures) := by
          rw [(v.response_step event).undismissed, List.append_assoc]
      _ = v.dismissed event ++ ((v.step event).dismissedAlong events ++ (v.run (event :: events)).undismissed) := by
          rw [ih]
          rfl
      _ = v.dismissedAlong (event :: events) ++ (v.run (event :: events)).undismissed := by
          rw [dismissedAlong, List.append_assoc]

theorem undismissed_start (context : ViewerContext) (s : Session) : (start context s).undismissed = [] := by
  obtain ⟨tree, targetOrder, history, he⟩ := start_eq context s
  rw [he]
  rfl

/-- **No failure is lost or comes out of turn.** At any time the failures that have arrived are those that keys
have dismissed, then the one on display, then those that wait. An open dialog stays as it is until a key
is pressed for it, which leaves it open in a later state or closes it for the failure that has waited longest;
nothing that is done meanwhile opens another dialog. -/
theorem failures_run (context : ViewerContext) (s : Session) (events : List ViewerEvent) :
    let v := (start context s).run events
    events.flatMap ViewerEvent.failures =
      (start context s).dismissedAlong events ++ (v.shownFailure?.toList ++ v.alerts) ∧
    ∀ d, v.dialog = some d →
      (∀ event, ¬v.IsAnswer event → (v.step event).dialog = some d) ∧
      (∀ event, v.IsAnswer event →
        (∃ d', d.Becomes d' ∧ (v.step event).dialog = some d' ∧ (v.step event).alerts = v.alerts) ∨
        ((v.step event).dialog = v.alerts.head?.map Dialog.alert ∧ (v.step event).alerts = v.alerts.tail)) ∧
      ∀ key, (({ v with dialog := none } : Viewer).answerDialog d key).1.dialog = none := by
  intro v
  refine ⟨?balance, fun d hd => ⟨fun event => (v.response_step event).dialog_of_not_isAnswer hd,
    fun event => (v.response_step event).dialog_of_isAnswer hd, fun key => dialog_answerDialog _ d key⟩⟩
  case balance =>
    have hbalance := (start context s).undismissed_run events
    rwa [undismissed_start, List.nil_append] at hbalance

end Viewer

end LoopSurvey
