import Mathlib
import LoopSurvey.Proofs.Session.Found
import LoopSurvey.Proofs.Session.Reveal
import LoopSurvey.Proofs.Session.Steady
import LoopSurvey.Proofs.Viewer.Delivery
import LoopSurvey.Proofs.Viewer.Work
import LoopSurvey.Viewer.Lines
/-!
# The mode and the active result

Unless a keyword is typed, the mode should tell whether there are results to step through (`Outlook.Settled`).
Typing ends with a mode that is set by the result, and whatever clears a result or shows one sets the mode, too.
Three commands miss that (`Viewer.SlipsBy`): going on to the next scope searches there for the keyword that was
typed, and the two that look for the callee of a leaf drop the result, but the mode stays as it was. No other event
lets the mode stray from the result (`Response.shift`), so where it has strayed, one of these keys is what has
left it so (`mode_eq_results_iff`).
-/

namespace LoopSurvey

/-! ## What every event keeps -/

/-- Whatever a handler does comes to moves of the session. -/
theorem Does.moves {dialog : Option Dialog} {w w' : Work} (h : Does dialog w w') :
    Session.Moves w.session w'.session := by
  cases h with
  | browses h =>
    obtain ⟨operations, -, he⟩ := h.exists_operations
    rw [he]
    exact w.session.moves_run operations
  | edits e touched h =>
    rw [Session.edit_eq_ok h]
    exact .single (.change e.change touched.affected)
  | jumps node callee candidates _ he =>
    rw [he]
    exact w.session.moves_jumpToCandidates node candidates

theorem Session.mem_ids_of_mem_comments {s : Session} {entry : NodeId × String} (h : entry ∈ s.comments) :
    entry.1 ∈ s.outline.ids := by
  obtain ⟨n, hn, hentry⟩ := List.mem_filterMap.1 (List.mem_reverse.1 h)
  obtain ⟨text, -, rfl⟩ := Option.map_eq_some_iff.1 hentry
  exact Outline.mem_ids.2 ⟨n, hn, rfl⟩

theorem Dialog.exists_entry_of_mem_chosen {entries : List (NodeId × String)} {cursor : Nat} {picked : List Nat}
    {id : NodeId} (h : id ∈ Dialog.chosen entries cursor picked) : ∃ entry ∈ entries, entry.1 = id := by
  obtain ⟨i, -, hi⟩ := List.mem_filterMap.1 h
  obtain ⟨entry, hentry, rfl⟩ := Option.map_eq_some_iff.1 hi
  exact ⟨entry, List.mem_of_getElem? hentry, rfl⟩

namespace Viewer

variable {call : Call} {v v' : Viewer}

/-- What arrives opens no dialog but that of a failure. -/
theorem dialog_receiveAll_cases (v : Viewer) (arrivals : List Arrival) :
    (v.receiveAll arrivals).dialog = v.dialog ∨ ∃ message, (v.receiveAll arrivals).dialog = some (.alert message) := by
  unfold receiveAll showAlert
  split_ifs with hopen
  · rcases unasked_nextDialog (arrivals.foldl receive v) with hnone | hfailure
    · have hd : v.dialog = none := (dialog_foldl_receive v arrivals).symm.trans (Option.isNone_iff_eq_none.1 hopen)
      exact Or.inl (hnone.trans hd.symm)
    · exact Or.inr hfailure
  · exact Or.inl (dialog_foldl_receive v arrivals)

theorem dialog_nextDialog_ne (v : Viewer) (entries : List (NodeId × String)) (cursor : Nat) (picked : List Nat) :
    v.nextDialog.dialog ≠ some (.commentList entries cursor picked) := by
  rw [dialog_nextDialog]
  intro h
  obtain ⟨message, -, hm⟩ := Option.map_eq_some_iff.1 h
  cases hm

/-- A list of comments that is open was so before, or has just been opened by a command. -/
theorem Response.commentList {event : ViewerEvent} (hr : v.Response event v') {entries : List (NodeId × String)}
    {cursor : Nat} {picked : List Nat} (h : v'.dialog = some (.commentList entries cursor picked)) :
    (∃ cursor picked, v.dialog = some (.commentList entries cursor picked)) ∨ entries = v.session.comments := by
  have hreceived {w : Viewer} {arrivals : List Arrival} (hw : w.dialog = v.dialog)
      (h : (w.receiveAll arrivals).dialog = some (.commentList entries cursor picked)) :
      ∃ cursor picked, v.dialog = some (.commentList entries cursor picked) := by
    rcases w.dialog_receiveAll_cases arrivals with hsame | ⟨message, hm⟩
    · exact ⟨cursor, picked, hw.symm.trans (hsame.symm.trans h)⟩
    · cases hm.symm.trans h
  cases hr with
  | helps | reads => exact Or.inl ⟨cursor, picked, h⟩
  | asks now key hhelp hd hbecomes =>
    cases Option.some.inj h
    cases hbecomes
    exact Or.inl ⟨_, _, hd⟩
  | dismisses | closes => exact absurd h (dialog_nextDialog_ne _ entries cursor picked)
  | spells now key hhelp hd hm hs => exact Or.inl ⟨cursor, picked, hs.dialog_eq.symm.trans h⟩
  | scrolls now key hhelp hd hp hpane =>
    obtain ⟨source, notice, rfl⟩ := eq_of_pressSource? hpane
    exact Or.inl ⟨cursor, picked, h⟩
  | moves now key hp hl => exact Or.inl ⟨cursor, picked, hl.dialog_eq.symm.trans h⟩
  | performs now key hp hmotion hcommand he =>
    rcases he.dialog_cases with hsame | ⟨-, ⟨d, hopens, hd⟩ | ⟨node, callee, candidates, hd⟩⟩
    · exact Or.inl ⟨cursor, picked, hsame.symm.trans h⟩
    · cases Option.some.inj (hd.symm.trans h)
      cases hopens
      exact Or.inr rfl
    · cases hd.symm.trans h
  | waits now arrivals => exact Or.inl (hreceived rfl h)
  | fires now arrivals hdue hs => exact Or.inl (hreceived hs.dialog_eq h)

/-- The targets are in order, and so is what waits and what is asked; the comments that are listed are those of
nodes in the outline. -/
structure Grounded (v : Viewer) : Prop where
  poised : v.Poised
  ordered : v.session.Ordered
  listed : ∀ entries cursor picked, v.dialog = some (.commentList entries cursor picked) →
    ∀ entry ∈ entries, entry.1 ∈ v.session.outline.ids

theorem Grounded.step (h : v.Grounded) (event : ViewerEvent) : (v.step event).Grounded where
  poised := h.poised.step event
  ordered := (v.does_step event).moves.keeps Session.Move.ordered h.ordered
  listed entries cursor picked hd entry hentry := by
    have hids : v.session.outline.ids = (v.step event).session.outline.ids :=
      (v.does_step event).moves.sameUnedited.ids
    rw [← hids]
    rcases (v.response_step event).commentList hd with ⟨cursor', picked', hd'⟩ | rfl
    · exact h.listed entries cursor' picked' hd' entry hentry
    · exact Session.mem_ids_of_mem_comments hentry

theorem grounded_start (context : ViewerContext) (s : Session) : (start context s).Grounded where
  poised := poised_start context s
  ordered := by
    have hsession : (start context s).session = s.makeReady.1 := congrArg Work.session (work_start context s)
    rw [hsession]
    exact s.ordered_makeReady
  listed entries cursor picked hd := by
    obtain ⟨tree, targetOrder, history, he⟩ := start_eq context s
    rw [he] at hd
    cases hd

theorem Grounded.run (h : v.Grounded) (events : List ViewerEvent) : (v.run events).Grounded :=
  run_keeps (fun _ event _ hv => hv.step event) h

end Viewer

/-! ## Mode and result -/

/-- What the mode tells, and what there is to step through. -/
structure Outlook where
  mode : SearchMode
  nodes : List NodeId

namespace Outlook

/-- The mode tells of results just if there are some. -/
def Settled (o : Outlook) : Prop := o.mode = .results ↔ o.nodes ≠ []

/-- What a key or a tick does to mode and result: a keyword is typed, or the mode is set by the result, or neither
changes. If it is a slip, the result alone may change. -/
inductive Shift (slip : Prop) (a b : Outlook) : Prop
  | types (mode_eq : b.mode = .editing)
  | settles (settled : b.Settled)
  | keeps (mode_eq : b.mode = a.mode) (nil_iff : b.nodes = [] ↔ a.nodes = [])
  | slips (h : slip) (mode_eq : b.mode = a.mode)

variable {slip slip' : Prop} {a b : Outlook}

theorem Settled.keeps (h : a.Settled) (hmode : b.mode = a.mode) (hnil : b.nodes = [] ↔ a.nodes = []) : b.Settled := by
  unfold Settled at h ⊢
  rw [hmode, h, Ne, Ne, hnil]

theorem Shift.of_eq (h : b = a) : Shift slip a b := h ▸ .keeps rfl .rfl

/-- Where the result is dropped and the mode stays, nothing is missed if there was none. -/
theorem shift_of_dropped (hmode : b.mode = a.mode) (hnil : b.nodes = []) (hslip : a.nodes ≠ [] → slip) :
    Shift slip a b := by
  by_cases ha : a.nodes = []
  · exact .keeps hmode ⟨fun _ => ha, fun _ => hnil⟩
  · exact .slips (hslip ha) hmode

theorem Shift.imp (h : slip → slip') (ht : Shift slip a b) : Shift slip' a b := by
  cases ht with
  | types hm => exact .types hm
  | settles hs => exact .settles hs
  | keeps hm hn => exact .keeps hm hn
  | slips hslip hm => exact .slips (h hslip) hm

end Outlook

namespace Viewer

open Outlook (Shift)

variable {call : Call} {v v' : Viewer} {slip : Prop}

/-- The mode of a viewer and the nodes of its active result. -/
def outlook (v : Viewer) : Outlook := ⟨v.mode, v.session.results.nodes⟩

/-! ### What keeps the mode in step -/

theorem outlook_of_pressSource? {pane : SourcePane} {key : Key} (h : v.pressSource? pane key = some v') :
    v'.outlook = v.outlook := by
  obtain ⟨source, notice, rfl⟩ := eq_of_pressSource? h
  rfl

theorem settled_stopTyping (v : Viewer) : v.stopTyping.outlook.Settled := by
  unfold Outlook.Settled outlook stopTyping restingMode Results.isEmpty
  cases v.session.results.nodes <;> simp

theorem Looks.outlook_eq (h : v.Looks v') : v'.outlook = v.outlook :=
  congrArg₂ (fun (c : Control) (s : Session) => Outlook.mk c.mode s.results.nodes) h.control_eq h.session_eq

theorem outlook_nextDialog (v : Viewer) : v.nextDialog.outlook = v.outlook := by
  obtain ⟨dialog, alerts, he⟩ := v.nextDialog_eq
  rw [he]
  rfl

theorem outlook_receiveAll (v : Viewer) (arrivals : List Arrival) : (v.receiveAll arrivals).outlook = v.outlook := by
  obtain ⟨dialog, source, alerts, notice, he⟩ := v.receiveAll_eq arrivals
  rw [he]
  rfl

/-- Presented nodes set the mode, or nothing is presented because none of them is in the outline. -/
theorem Presents.outlook_cases {s : Session} {hits : List NodeId} (h : v.Presents s hits v') :
    v'.outlook.Settled ∨ (∀ id ∈ hits, id ∉ s.outline.ids) ∧ v'.outlook = ⟨v.mode, s.results.nodes⟩ := by
  have hsession := h.session_eq
  have hmode := h.mode_eq
  rcases s.presentAll_cases "" hits with ⟨hnone, he⟩ | ⟨⟨first, hfirst⟩, hne⟩
  · rw [he] at hsession hmode
    exact Or.inr ⟨hnone, congrArg₂ Outlook.mk hmode (congrArg (·.results.nodes) hsession)⟩
  · rw [hfirst] at hmode
    have hnodes : v'.session.results.nodes ≠ [] := hsession ▸ hne
    exact Or.inl ⟨fun _ => hnodes, fun _ => hmode⟩

/-- Nodes of the outline that are shown in place of the result set the mode. -/
theorem Presents.settled {hits : List NodeId} (h : v.Presents v.session.clearResults.1 hits v') {id : NodeId}
    (hid : id ∈ hits) (hmem : id ∈ v.session.outline.ids) : v'.outlook.Settled := by
  rcases h.outlook_cases with hs | ⟨hnone, -⟩
  · exact hs
  · rw [v.session.alike_clearResults.ids] at hmem
    exact absurd hmem (hnone id hid)

/-! ### What misses the mode -/

/-- The commands that may change the result without the mode: going on to the next scope while there is a keyword,
and looking for the callee of a leaf while there is a result. -/
inductive SlipsBy (v : Viewer) : TreeCommand → Prop
  | cycleScope (h : v.query ≠ "") : v.SlipsBy .cycleScope
  | jumpCallee {p : Place Node} (hp : v.place? = some p) (hleaf : p.isLeaf = true)
      (h : v.session.results.nodes ≠ []) : v.SlipsBy .jumpCallee
  | jumpOrOpen {p : Place Node} (hp : v.place? = some p) (hleaf : p.isLeaf = true)
      (h : v.session.results.nodes ≠ []) : v.SlipsBy .jumpOrOpen

/-- Looking for the callee of a node changes nothing, or the node is a leaf and the result is dropped. -/
theorem calleeChoice_selected {id : NodeId} (h : v.tree.selected? = some id) :
    v.session.calleeChoice id = (v.session, .openSource) ∨
    (∃ p, v.place? = some p ∧ p.isLeaf = true) ∧ (v.session.calleeChoice id).1.results.nodes = [] := by
  by_cases hsame : v.session.calleeChoice id = (v.session, .openSource)
  · exact Or.inl hsame
  · obtain ⟨p, hp, hleaf⟩ := Session.isLeaf_of_calleeChoice hsame
    have hplace : v.place? = some p := by
      unfold place?
      rw [h]
      exact hp
    have hdropped := (v.session.calleeChoice_cases id).resolve_left hsame
    exact Or.inr ⟨⟨p, hplace, hleaf⟩, by rw [hdropped]; rfl⟩

/-- Where looking for a callee drops the result, the mode misses it. -/
theorem shift_of_calleeChoice {id : NodeId} (hid : v.tree.selected? = some id) (hmode : v'.mode = v.mode)
    (hnodes : v'.session.results.nodes = (v.session.calleeChoice id).1.results.nodes)
    (hslip : ∀ p, v.place? = some p → p.isLeaf = true → v.session.results.nodes ≠ [] → slip) :
    Shift slip v.outlook v'.outlook := by
  rcases calleeChoice_selected hid with hsame | ⟨⟨p, hp, hleaf⟩, hnil⟩
  · rw [hsame] at hnodes
    exact .of_eq (congrArg₂ Outlook.mk hmode hnodes)
  · exact Outlook.shift_of_dropped hmode (hnodes.trans hnil) (hslip p hp hleaf)

/-- What a jump shows sets the mode, unless no candidate of a callee is in the outline. -/
theorem Jumps.shift {op : Session.Operation} {s : Session} {hits : List NodeId} (hj : v.Jumps call op s hits)
    (h : ({ v with query := "" } : Viewer).Presents s hits v') (ho : v.session.Ordered)
    (hl : ∀ entries cursor picked key, call = .answer (.commentList entries cursor picked) key →
      ∀ entry ∈ entries, entry.1 ∈ v.session.outline.ids) :
    Shift (∃ command, call = .command command ∧ v.SlipsBy command) v.outlook v'.outlook := by
  cases hj with
  | targets hcall hne =>
    -- the targets that are in order are in the outline
    obtain ⟨id, hid⟩ := List.exists_mem_of_ne_nil _ hne
    exact .settles (Presents.settled (v := { v with query := "" }) h hid (ho.mem_targetOrder.1 hid).2)
  | @callee hcall id hid s callee candidates hchoice =>
    rcases h.outlook_cases with hs | ⟨-, he⟩
    · exact .settles hs
    · -- the result is gone already, and nothing is shown in its place
      obtain ⟨history, hvisit⟩ := s.visit_eq id
      have hnodes : v'.session.results.nodes = (v.session.calleeChoice id).1.results.nodes := by
        rw [hchoice]
        exact (congrArg Outlook.nodes he).trans (by rw [hvisit])
      exact shift_of_calleeChoice hid (congrArg Outlook.mode he) hnodes fun p hp hleaf hne =>
        ⟨_, hcall, .jumpCallee hp hleaf hne⟩
  | @comments entries cursor picked key hcall hne =>
    -- the comments that are listed are those of nodes in the outline
    obtain ⟨id, hid⟩ := List.exists_mem_of_ne_nil _ hne
    obtain ⟨entry, hentry, rfl⟩ := Dialog.exists_entry_of_mem_chosen hid
    exact .settles (Presents.settled (v := { v with query := "" }) h hid (hl _ _ _ _ hcall entry hentry))

/-! ### Every key and every tick -/

/-- No handler changes the result without the mode, but for the commands that do. -/
theorem Effect.shift (h : v.Effect call v') (ho : v.session.Ordered)
    (hl : ∀ entries cursor picked key, call = .answer (.commentList entries cursor picked) key →
      ∀ entry ∈ entries, entry.1 ∈ v.session.outline.ids) :
    Shift (∃ command, call = .command command ∧ v.SlipsBy command) v.outlook v'.outlook := by
  cases h with
  | looks h | untypes h => exact .of_eq h.outlook_eq
  | edits h =>
    rw [Session.edit_eq_ok h]
    exact .of_eq rfl
  | unfolds hop h =>
    cases hop <;> exact .of_eq h.outlook_eq
  | steps hop node =>
    rcases hop with rfl | rfl
    · exact .of_eq (congrArg (Outlook.mk v.mode) (Session.nodes_advance _))
    · exact .of_eq (congrArg (Outlook.mk v.mode) (Session.nodes_retreat _))
  | clears => exact .settles ⟨fun hm => (nomatch hm), fun hn => absurd rfl hn⟩
  | jumps hj h => exact hj.shift h ho hl
  | @takes node callee candidates key hcall v' h =>
    rcases h.outlook_cases with hs | ⟨-, he⟩
    · exact .settles hs
    · obtain ⟨history, hvisit⟩ := v.session.visit_eq node
      exact .of_eq (he.trans (congrArg (Outlook.mk v.mode) (by rw [hvisit])))
  | loses hcall hid h =>
    refine shift_of_calleeChoice hid (congrArg Control.mode h.control_eq) (congrArg (·.results.nodes) h.session_eq) ?_
    intro p hp hleaf hne
    rcases hcall with hcall | hcall
    · exact ⟨_, hcall, .jumpCallee hp hleaf hne⟩
    · exact ⟨_, hcall, .jumpOrOpen hp hleaf hne⟩
  | asks hcall hid h =>
    refine shift_of_calleeChoice hid rfl ?_ fun p hp hleaf hne => ⟨_, hcall, .jumpOrOpen hp hleaf hne⟩
    rw [h]
    rfl
  | opens | idles => exact .of_eq rfl
  | begins => exact .types rfl
  | cycles hcall hq h => exact .slips ⟨_, hcall, .cycleScope hq⟩ (congrArg Control.mode h.control_eq)

theorem Spells.shift (h : v.Spells v') (hm : v.mode = .editing) : Shift slip v.outlook v'.outlook := by
  cases h with
  | stays => exact .of_eq rfl
  | retypes => exact .types hm
  | leaves => exact .settles (settled_stopTyping _)
  | accepts => exact .settles (settled_stopTyping _)

/-- The keys of commands that may change the result without the mode. -/
def Slips (v : Viewer) (event : ViewerEvent) : Prop :=
  ∃ now key command, event = .key now key ∧ v.Passes key ∧ key.motion? = none ∧ key.command? = some command ∧
    v.SlipsBy command

/-- Only three keys slip: the one for the next scope and the two for callees. -/
theorem Slips.key_cases {event : ViewerEvent} (h : v.Slips event) :
    ∃ now, event = .key now .tab ∨ event = .key now (.char 'g') ∨ event = .key now (.char 'o') := by
  obtain ⟨now, key, command, rfl, -, -, hcommand, hslips⟩ := h
  refine ⟨now, ?_⟩
  have hmem : (key, command) ∈ TreeCommand.keys := by
    obtain ⟨before, after, he, -⟩ := List.lookup_eq_some_iff.1 hcommand
    rw [he]
    exact List.mem_append_right before List.mem_cons_self
  cases hslips <;> simp [TreeCommand.keys] at hmem <;> simp [hmem]

theorem Response.shift {event : ViewerEvent} (hr : v.Response event v') (h : v.Grounded) :
    Shift (v.Slips event) v.outlook v'.outlook := by
  cases hr with
  | helps | asks | reads => exact .of_eq rfl
  | dismisses => exact .of_eq (outlook_nextDialog _)
  | @closes now key hhelp d hd halert v' he =>
    have hlisted : ∀ entries cursor picked k, Call.answer d key = .answer (.commentList entries cursor picked) k →
        ∀ entry ∈ entries, entry.1 ∈ v.session.outline.ids := by
      intro entries cursor picked k hcall
      cases hcall
      exact h.listed entries cursor picked hd
    rw [outlook_nextDialog]
    exact (he.shift h.ordered hlisted).imp fun ⟨_, hcall, _⟩ => nomatch hcall
  | spells now key hhelp hd hm hs => exact hs.shift hm
  | scrolls now key hhelp hd hp hpane => exact .of_eq (outlook_of_pressSource? hpane)
  | moves now key hp hl => exact .of_eq hl.outlook_eq
  | @performs now key hp command hmotion hcommand v' he =>
    refine (he.shift h.ordered fun _ _ _ _ hcall => nomatch hcall).imp ?_
    rintro ⟨_, hcall, hslips⟩
    cases hcall
    exact ⟨now, key, command, rfl, hp, hmotion, hcommand, hslips⟩
  | waits now arrivals => exact .of_eq (outlook_receiveAll v arrivals)
  | fires now arrivals hdue hs =>
    have hm : v.mode = .editing := h.poised.attended (Debouncer.pending_of_takeDue hdue).1
    rw [outlook_receiveAll]
    exact .types ((congrArg Control.mode hs.control_eq).trans hm)

/-- Unless a keyword is typed, the mode tells of results just if there are some, or both are as a slip has left them. -/
theorem Grounded.settled_run (h : v.Grounded) (hs : v.outlook.Settled) (events : List ViewerEvent)
    (hm : (v.run events).mode ≠ .editing) :
    (v.run events).outlook.Settled ∨ ∃ before event after, events = before ++ event :: after ∧
      (v.run before).Slips event ∧ (v.run before).mode = (v.run events).mode ∧
      (((v.run before).step event).session.results.nodes = [] ↔ (v.run events).session.results.nodes = []) := by
  -- from its last event back: a slip counts until an event sets the mode by the result
  induction events using List.reverseRecOn with
  | nil => exact Or.inl hs
  | append_singleton events event ih =>
    rw [run_concat] at hm ⊢
    cases ((v.run events).response_step event).shift (h.run events) with
    | types hmode => exact absurd hmode hm
    | settles hsettled => exact Or.inl hsettled
    | slips hslips hmode => exact Or.inr ⟨events, event, [], rfl, hslips, hmode.symm, Iff.rfl⟩
    | keeps hmode hnil =>
      have hm' : (v.run events).mode ≠ .editing := fun he => hm (hmode.trans he)
      rcases ih hm' with hsettled | ⟨before, e, after, rfl, hslips, hsame, hnodes⟩
      · exact Or.inl (hsettled.keeps hmode hnil)
      · exact Or.inr ⟨before, e, after ++ [event], by simp, hslips, hsame.trans hmode.symm, hnodes.trans hnil.symm⟩

/-! ### What the footer offers -/

/-- Unless a source is open, the footer offers to step through the result, and to clear it, just if the mode tells of
results. -/
theorem mem_helpEntries_iff (h : v.source = none) {entry : String × String}
    (he : entry = ("next", "n/N") ∨ entry = ("clear", "x")) : entry ∈ v.helpEntries ↔ v.mode = .results := by
  have hkeys : entry ∈ v.helpEntries ↔ entry ∈
      if v.mode = .results then [("next", "n/N"), ("clear", "x")] else [("search", "/"), ("targets", "t")] := by
    rcases he with rfl | rfl <;> simp [helpEntries, h]
  rw [hkeys]
  rcases he with rfl | rfl <;> split_ifs with hm <;> simp [hm]

/-- **The mode tells whether there are results, unless a slip has left it behind.** While no keyword is typed, the mode
tells of results, and the footer offers to step through them, just if there are some; or some event before changed the
result without the mode, and mode and result are as they were after it. -/
theorem mode_eq_results_iff (context : ViewerContext) (o : Outline) (t : Tables) (events : List ViewerEvent) :
    let loaded := start context { outline := o, tables := t }
    let v := loaded.run events
    v.mode ≠ .editing →
      ((v.mode = .results ↔ v.session.results.nodes ≠ []) ∧
        (v.source = none → (("next", "n/N") ∈ v.helpEntries ↔ v.session.results.nodes ≠ []) ∧
          (("clear", "x") ∈ v.helpEntries ↔ v.session.results.nodes ≠ []))) ∨
      ∃ before event after, events = before ++ event :: after ∧
        let u := loaded.run before
        u.Slips event ∧ u.mode = v.mode ∧
        ((u.step event).session.results.nodes = [] ↔ v.session.results.nodes = []) := by
  intro loaded v hm
  have hstart : loaded.outlook.Settled := by
    obtain ⟨tree, targetOrder, history, he⟩ := start_eq context { outline := o, tables := t }
    unfold loaded
    rw [he]
    exact ⟨fun hm => (nomatch hm), fun hn => absurd rfl hn⟩
  rcases (grounded_start context _).settled_run hstart events hm with hsettled | hslipped
  · have hmode : v.mode = .results ↔ v.session.results.nodes ≠ [] := hsettled
    refine Or.inl ⟨hmode, fun hsource => ⟨?_, ?_⟩⟩
    · exact (mem_helpEntries_iff hsource (Or.inl rfl)).trans hmode
    · exact (mem_helpEntries_iff hsource (Or.inr rfl)).trans hmode
  · exact Or.inr hslipped

/-- A letter is typed and accepted. -/
def acceptingLetter : List ViewerEvent := [.key 0 (.char '/'), .key 10 (.char 'd'), .key 20 .enter]

/-- Both loops have the letter in common, and nothing slips while it is typed and accepted. -/
theorem mode_eq_results_iff_pair :
    let v := (start {} Sample.pairSession).run acceptingLetter
    v.mode ≠ .editing ∧ v.mode = .results ∧ v.session.results.nodes ≠ [] := by
  have hmode : ((start {} Sample.pairSession).run acceptingLetter).mode = .results := by cbv
  intro v
  have hm : v.mode ≠ .editing := by
    rw [hmode]
    decide
  rcases mode_eq_results_iff {} Sample.pairOutline Sample.pairTables acceptingLetter hm with ⟨hiff, -⟩ | hslipped
  · exact ⟨hm, hmode, hiff.1 hmode⟩
  · obtain ⟨before, event, after, he, hslips, -⟩ := hslipped
    have hmem : event ∈ acceptingLetter := by simp [he]
    obtain ⟨now, hkey⟩ := hslips.key_cases
    exfalso
    rcases hkey with rfl | rfl | rfl <;> simp [acceptingLetter] at hmem

/-- A letter is typed and accepted, and the callee of the first hit is looked for. -/
def losingResult : List ViewerEvent := acceptingLetter ++ [.key 30 (.char 'g')]

/-- The callee of the loop is not known, so the result is gone, but the mode still tells of one. -/
theorem mode_results_of_nil_pair :
    let v := (start {} { outline := Sample.pairOutline }).run losingResult
    v.mode ≠ .editing ∧ v.source = none ∧ v.session.results.nodes = [] ∧ v.mode = .results ∧
      ("next", "n/N") ∈ v.helpEntries ∧ ¬(v.mode = .results ↔ v.session.results.nodes ≠ []) := by
  have hmode : ((start {} { outline := Sample.pairOutline }).run losingResult).mode = .results := by cbv
  have hresults : ((start {} { outline := Sample.pairOutline }).run losingResult).session.results = {} := by cbv
  have hsource : ((start {} { outline := Sample.pairOutline }).run losingResult).source = none := by cbv
  intro v
  have hnodes : v.session.results.nodes = [] := congrArg Results.nodes hresults
  refine ⟨?_, hsource, hnodes, hmode, (mem_helpEntries_iff hsource (Or.inl rfl)).2 hmode, fun h => h.1 hmode hnodes⟩
  rw [hmode]
  decide

end Viewer

end LoopSurvey
