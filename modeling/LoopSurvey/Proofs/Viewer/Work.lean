import LoopSurvey.Proofs.Viewer.Response
/-!
# What keys and ticks do to the session and the requests

An effect either browses (`Browses`): operations other than edits are carried out, and sources are asked for or what
changes neither labels nor checks is journalled. Or one accepted edit is made and journalled, or the jump is taken that
an open dialog has asked about (`Does`). So every key and every tick comes to one of the three (`does_step`).
-/

namespace LoopSurvey

/-! ## Browsing -/

/-- Operations other than edits are carried out, and requests that journal no change are added. -/
structure Browses (w w' : Work) : Prop where
  context_eq : w'.context = w.context
  exists_operations : ∃ operations : List Session.Operation,
    (∀ op ∈ operations, op.isEdit = false) ∧ w'.session = w.session.run operations
  exists_requests : ∃ requests : List Request,
    (∀ r ∈ requests, r.isQuiet = true) ∧ w'.outbox = w.outbox ++ requests

namespace Browses

variable {w w' w'' : Work}

theorem refl (w : Work) : Browses w w where
  context_eq := rfl
  exists_operations := ⟨[], by simp, rfl⟩
  exists_requests := ⟨[], by simp, (List.append_nil _).symm⟩

theorem trans (h : Browses w w') (h' : Browses w' w'') : Browses w w'' := by
  obtain ⟨ops, hops, hs⟩ := h.exists_operations
  obtain ⟨ops', hops', hs'⟩ := h'.exists_operations
  obtain ⟨requests, hrequests, ho⟩ := h.exists_requests
  obtain ⟨requests', hrequests', ho'⟩ := h'.exists_requests
  refine ⟨h'.context_eq.trans h.context_eq, ⟨ops ++ ops', ?_, ?_⟩, requests ++ requests', ?_, ?_⟩
  · exact fun op hop => (List.mem_append.1 hop).elim (hops op) (hops' op)
  · rw [hs', hs]
    exact List.foldl_append.symm
  · exact fun r hr => (List.mem_append.1 hr).elim (hrequests r) (hrequests' r)
  · rw [ho', ho, List.append_assoc]

/-- One operation. -/
theorem operate (w : Work) (op : Session.Operation) (h : op.isEdit = false) {s : Session}
    (hs : w.session.operate op = s) : Browses w { w with session := s } where
  context_eq := rfl
  exists_operations := ⟨[op], by simpa using h, hs.symm⟩
  exists_requests := ⟨[], by simp, (List.append_nil _).symm⟩

/-- One request. -/
theorem ask (w : Work) {r : Request} (h : r.isQuiet = true) :
    Browses w { w with outbox := w.outbox ++ [r] } where
  context_eq := rfl
  exists_operations := ⟨[], by simp, rfl⟩
  exists_requests := ⟨[r], by simpa using h, rfl⟩

end Browses

/-! ## What a handler does -/

/-- What a handler does while a dialog is open, or none. -/
inductive Does (dialog : Option Dialog) (w w' : Work) : Prop
  | browses (h : Browses w w')
  /-- An accepted edit is journalled together with the nodes that it affected. -/
  | edits (e : Edit) (touched : Touched) (h : w.session.edit e = (w'.session, .ok touched))
      (known : ∀ j, e.change = .judge j → j ∈ w.context.judgments)
      (context_eq : w'.context = w.context)
      (outbox_eq : w'.outbox = w.outbox ++ [.journal
        (.on w.context.identity w'.session.outline touched.affected e.change.action)])
  /-- The jump asked about is taken. -/
  | jumps (node : NodeId) (callee : String) (candidates : List NodeId)
      (h : dialog = some (.jumpOrOpen node callee candidates))
      (session_eq : w'.session = (w.session.jumpToCandidates node candidates).1)
      (context_eq : w'.context = w.context) (outbox_eq : w'.outbox = w.outbox)

namespace Does

variable {dialog : Option Dialog} {w w' : Work}

theorem context_eq (h : Does dialog w w') : w'.context = w.context := by
  cases h with
  | browses h => exact h.context_eq
  | edits _ _ _ _ h _ => exact h
  | jumps _ _ _ _ _ h _ => exact h

theorem refl (w : Work) : Does dialog w w := .browses (.refl w)

theorem of_core_eq {v v' : Viewer} (h : v'.core = v.core) : Does dialog v.work v'.work := by
  have hwork : v'.work = v.work := congrArg Core.work h
  rw [hwork]
  exact .refl _

end Does

namespace Viewer

variable {call : Call} {v v' : Viewer}

/-! ## Effects -/

theorem Looks.browses (h : v.Looks v') : Browses v.work v'.work where
  context_eq := by rw [h.eq]; rfl
  exists_operations := ⟨[], by simp, h.session_eq⟩
  exists_requests := h.asks

/-- An operation is carried out and shown. -/
theorem Looks.browses_of_operate {w : Viewer} (h : w.Looks v') (op : Session.Operation) (hop : op.isEdit = false)
    (hw : w.work = { v.work with session := v.session.operate op }) : Browses v.work v'.work := by
  have hoperated : Browses v.work w.work := hw ▸ .operate v.work op hop rfl
  exact hoperated.trans h.browses

theorem Searches.browses {keyword : String} (h : v.Searches keyword v') : Browses v.work v'.work := by
  cases h with
  | steps node => exact .operate v.work .next rfl rfl
  | anew h => exact h.browses_of_operate (.search keyword v.scope) rfl rfl

theorem browses_fireDue (v : Viewer) (now : Nat) : Browses v.work (v.fireDue now).work := by
  rcases v.fireDue_cases now with he | ⟨waiting, keyword, -, h⟩
  · rw [he]
    exact .refl _
  · exact h.browses

theorem Spells.browses (h : v.Spells v') : Browses v.work v'.work := by
  cases h with
  | stays => exact .refl _
  | retypes query waiting => exact .refl _
  | leaves => exact .refl _
  | accepts h => exact h.browses

/-- Whatever a handler does is to browse, to make an edit or to take the jump that is asked about. -/
theorem Effect.does (h : v.Effect call v') : Does call.dialog? v.work v'.work := by
  cases h with
  | looks h => exact .browses h.browses
  | untypes h => exact .browses h.browses
  | edits h known written => exact .edits _ _ h known rfl rfl
  | unfolds hop h =>
    refine .browses (h.browses_of_operate _ ?_ rfl)
    cases hop <;> rfl
  | steps hop node =>
    rcases hop with rfl | rfl
    · exact .browses (.operate v.work .next rfl rfl)
    · exact .browses (.operate v.work .previous rfl rfl)
  | clears => exact .browses (.operate v.work .clearResults rfl rfl)
  | @jumps op s hits hj v' h =>
    have hop : op.isEdit = false := by cases hj <;> rfl
    have hwork : ({ v with query := "", session := (s.presentAll "" hits).1 } : Viewer).refresh.work =
        { v.work with session := v.session.operate op } := by
      rw [hj.operate_eq]
      rfl
    exact .browses (h.looks.browses_of_operate op hop hwork)
  | takes hcall h => exact .jumps _ _ _ (congrArg Call.dialog? hcall) h.looks.session_eq h.context_eq h.outbox_eq
  | loses hcall hid h => exact .browses (h.browses_of_operate (.calleeChoice _) rfl rfl)
  | opens hcall hd => exact .refl _
  | asks hcall hid h => exact .browses (.operate v.work (.calleeChoice _) rfl (congrArg Prod.fst h))
  | begins hcall => exact .refl _
  | idles hcall hq => exact .refl _
  | cycles hcall hq h => exact .browses (h.browses_of_operate (.changeScope _ _) rfl rfl)

/-! ## Every key and every tick -/

theorem Response.does {event : ViewerEvent} (h : v.Response event v') : Does v.dialog v.work v'.work := by
  cases h with
  | helps => exact .refl _
  | asks => exact .refl _
  | dismisses =>
    rw [work_nextDialog]
    exact .refl _
  | closes now key hhelp hd halert h =>
    rw [work_nextDialog, hd]
    exact h.does
  | spells now key hhelp hd hm h => exact .browses h.browses
  | reads => exact .refl _
  | scrolls now key hhelp hd hp h => exact .of_core_eq (core_of_pressSource? h)
  | moves now key hp h => exact .browses h.browses
  | performs now key hp hmotion hcommand h =>
    rw [hp.dialog_eq]
    exact h.does
  | waits now arrivals =>
    rw [work_receiveAll]
    exact .refl _
  | fires now arrivals hdue h =>
    rw [work_receiveAll]
    exact .browses h.browses

/-- **What keys and ticks do**: a viewer browses, makes and journals one accepted edit, or takes the jump
that its dialog asks about. -/
theorem does_step (v : Viewer) (event : ViewerEvent) : Does v.dialog v.work (v.step event).work :=
  (v.response_step event).does

end Viewer

end LoopSurvey
