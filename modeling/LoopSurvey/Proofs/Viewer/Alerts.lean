import LoopSurvey.Proofs.Viewer.Response
/-!
# Failures that wait

Of what stands aside from the outline (`Viewer.aside`), the failures that wait and the source pane, a handler at most
replaces the pane by a fresh one (`Effect.opens`). A failure waits only while a dialog is open (`Viewer.Heeded`): what
arrives is taken in by ticks, which open a dialog for it if there is none, and the key that closes a dialog opens one
for the next failure (`Heeded.step`).
-/

namespace LoopSurvey

/-- What stands aside from the outline. -/
structure Aside where
  alerts : List String
  source : Option SourcePane

namespace Aside

/-- At most a source is opened, in a pane that has no text yet. -/
def Opens (a a' : Aside) : Prop := a' = a ∨ ∃ request, a' = { a with source := some { request } }

theorem Opens.alerts_eq {a a' : Aside} (h : a.Opens a') : a'.alerts = a.alerts := by
  rcases h with rfl | ⟨request, rfl⟩ <;> rfl

end Aside

namespace Viewer

variable {call : Call} {v v' : Viewer}

/-- What stands aside in a viewer. -/
def aside (v : Viewer) : Aside := ⟨v.alerts, v.source⟩

/-! ## Effects on what stands aside -/

theorem Looks.aside_opens (h : v.Looks v') : v.aside.Opens v'.aside := by
  rcases h.opens with hsource | ⟨request, hsource⟩
  · exact Or.inl (congrArg₂ Aside.mk h.alerts_eq hsource)
  · exact Or.inr ⟨request, congrArg₂ Aside.mk h.alerts_eq hsource⟩

theorem Searches.aside_opens {keyword : String} (h : v.Searches keyword v') : v.aside.Opens v'.aside := by
  cases h with
  | steps node => exact .inl rfl
  | anew h => exact h.aside_opens

theorem Spells.aside_opens (h : v.Spells v') : v.aside.Opens v'.aside := by
  cases h with
  | stays | retypes | leaves => exact .inl rfl
  | accepts h => exact h.aside_opens

/-- Whatever a handler does, it opens a source at most. -/
theorem Effect.aside_opens (h : v.Effect call v') : v.aside.Opens v'.aside := by
  cases h with
  | looks h | untypes h | unfolds _ h | loses _ _ h | cycles _ _ h => exact h.aside_opens
  | jumps _ h | takes _ h => exact h.looks.aside_opens
  | edits | steps | clears | opens | asks | begins | idles => exact .inl rfl

theorem Searches.alerts_eq {keyword : String} (h : v.Searches keyword v') : v'.alerts = v.alerts :=
  h.aside_opens.alerts_eq

theorem Effect.alerts_eq (h : v.Effect call v') : v'.alerts = v.alerts := h.aside_opens.alerts_eq

/-! ## Waiting behind a dialog -/

/-- No failure waits while no dialog is open. -/
def Heeded (v : Viewer) : Prop := v.dialog = none → v.alerts = []

theorem heeded_nextDialog (v : Viewer) : v.nextDialog.Heeded := by
  unfold nextDialog
  split
  · next h => exact fun _ => h
  · exact fun hd => nomatch hd

theorem heeded_showAlert (v : Viewer) : v.showAlert.Heeded := by
  unfold showAlert
  split_ifs with hd
  · exact v.heeded_nextDialog
  · intro hn
    rw [hn] at hd
    exact absurd rfl hd

theorem heeded_start (context : ViewerContext) (s : Session) : (start context s).Heeded := by
  obtain ⟨tree, targetOrder, history, he⟩ := start_eq context s
  rw [he]
  exact fun _ => rfl

/-- Without a dialog a key leaves the failures that wait alone. -/
theorem Heeded.of_opens (h : v.Heeded) (hd : v.dialog = none) (ha : v.aside.Opens v'.aside) : v'.Heeded :=
  fun _ => ha.alerts_eq.trans (h hd)

theorem Response.heeded {event : ViewerEvent} (hr : v.Response event v') (h : v.Heeded) : v'.Heeded := by
  cases hr with
  | helps => exact h
  | asks => exact fun hd => nomatch hd
  | dismisses | closes => exact heeded_nextDialog _
  | spells _ _ _ hd _ hs => exact h.of_opens hd hs.aside_opens
  | reads => exact h
  | scrolls _ _ _ hd _ hs =>
    obtain ⟨source, notice, rfl⟩ := eq_of_pressSource? hs
    exact h
  | moves _ _ hp hl => exact h.of_opens hp.dialog_eq hl.aside_opens
  | performs _ _ hp _ _ he => exact h.of_opens hp.dialog_eq he.aside_opens
  | waits | fires => exact heeded_showAlert _

/-- Every key and every tick leaves no failure waiting without a dialog. -/
theorem Heeded.step (h : v.Heeded) (event : ViewerEvent) : (v.step event).Heeded := (v.response_step event).heeded h

theorem Heeded.run (h : v.Heeded) (events : List ViewerEvent) : (v.run events).Heeded :=
  run_keeps (fun _ event _ hv => hv.step event) h

end Viewer

end LoopSurvey
