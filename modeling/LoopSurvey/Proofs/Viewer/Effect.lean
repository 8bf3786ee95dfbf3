import Mathlib.Tactic.SplitIfs
import LoopSurvey.Proofs.Journal.Replay
import LoopSurvey.Proofs.Session.Found
import LoopSurvey.Proofs.Viewer.Core
/-!
# What handlers do

A key comes to a handler, and whatever the handler is, it has one of few effects (`Viewer.Effect`): it changes what is
shown, makes an edit, opens or closes nodes, steps through the result, drops it or shows another one in its place, or
it asks something. Where a keyword is typed, keys and ticks do one of few other things (`Viewer.Spells`,
`Viewer.Searches`). Which handler has which effect is told in `Response`; what is said of every key and every tick is
read off the effects.
-/

namespace LoopSurvey

/-- The entry that a request asks to journal. -/
def Request.journalled? : Request → Option Journal.Entry
  | .journal entry => some entry
  | .source _ => none

/-- Whether a request journals no change of labels or checks. -/
def Request.isQuiet (r : Request) : Bool := r.journalled?.all (·.action.isQuiet)

/-- Where the cursor may go while the rows stay as they are. -/
inductive TreePane.Goes (t : TreePane) (o : Outline) : TreePane → Prop
  | stays : Goes t o t
  | moves (m : Motion) : Goes t o (t.move m)
  | focuses (id : NodeId) : Goes t o (t.focus o id)

namespace Session.Operation

/-- The operations that open or close nodes. -/
inductive Unfolds : Operation → Prop
  | expandAll (node : NodeId) : Unfolds (.expandAll node)
  | collapseAll (node : NodeId) : Unfolds (.collapseAll node)
  | expandLoops (node : NodeId) (flag : LoopFlag) : Unfolds (.expandLoops node flag)

end Session.Operation

namespace Dialog

/-- What a dialog may become while it stays open: what is written in it or picked may change. -/
inductive Becomes : Dialog → Dialog → Prop
  | jumpOrOpen (node : NodeId) (callee : String) (candidates : List NodeId) :
      Becomes (.jumpOrOpen node callee candidates) (.jumpOrOpen node callee candidates)
  | commentEditor (node : NodeId) (text text' : String) :
      Becomes (.commentEditor node text) (.commentEditor node text')
  | commentList (entries : List (NodeId × String)) (cursor cursor' : Nat) (picked picked' : List Nat) :
      Becomes (.commentList entries cursor picked) (.commentList entries cursor' picked')
  | expandConfirm (node : NodeId) (descendants : Nat) :
      Becomes (.expandConfirm node descendants) (.expandConfirm node descendants)

/-- The dialogs that are opened with nothing else done. -/
inductive Opens (s : Session) : Dialog → Prop
  | commentEditor (node : NodeId) (text : String) : Opens s (.commentEditor node text)
  | comments : Opens s (.commentList s.comments 0 [])
  | expandConfirm (node : NodeId) (descendants : Nat) : Opens s (.expandConfirm node descendants)

end Dialog

/-- What a handler is called for: a command to the outline, or a key for the open dialog. -/
inductive Call
  | command (command : TreeCommand)
  | answer (d : Dialog) (key : Key)

/-- The dialog that is answered. -/
def Call.dialog? : Call → Option Dialog
  | command _ => none
  | answer d _ => some d

namespace Viewer

/-! ## Effects -/

/-- What is shown changes, and nothing else: the cursor of the tree pane goes somewhere, a pane is opened, a message is
left, or something is asked for that journals no change. -/
structure Looks (v v' : Viewer) : Prop where
  eq : v' = { v with
    tree := v'.tree, source := v'.source, textTree := v'.textTree, help := v'.help, notice := v'.notice
    quit := v'.quit, outbox := v'.outbox }
  goes : v.tree.Goes v.session.outline v'.tree
  opens : v'.source = v.source ∨ ∃ request : SourceRequest, v'.source = some { request }
  asks : ∃ requests : List Request, (∀ r ∈ requests, r.isQuiet = true) ∧ v'.outbox = v.outbox ++ requests

/-- Some nodes are presented in a session; if there are any in the outline, the mode tells of them. -/
structure Presents (v : Viewer) (s : Session) (hits : List NodeId) (v' : Viewer) : Prop where
  looks : ({ v with session := (s.presentAll "" hits).1 } : Viewer).refresh.Looks { v' with mode := v.mode }
  mode_eq : v'.mode = if (s.presentAll "" hits).2.first.isSome then .results else v.mode
  outbox_eq : v'.outbox = v.outbox

/-- The operation of a jump, the session in which its nodes are presented, without the result before, and the nodes. -/
inductive Jumps (call : Call) (v : Viewer) : Session.Operation → Session → List NodeId → Prop
  | targets (hcall : call = .command .jumpTargets) (h : v.session.targetOrder ≠ []) :
      v.Jumps call .jumpToTargets v.session.clearResults.1 v.session.targetOrder
  | callee (hcall : call = .command .jumpCallee) {id : NodeId} (hid : v.tree.selected? = some id) {s : Session}
      {callee : String} {candidates : List NodeId} (h : v.session.calleeChoice id = (s, .ask callee candidates)) :
      v.Jumps call (.jumpToCallee id) (s.visit id) candidates
  | comments {entries : List (NodeId × String)} {cursor : Nat} {picked : List Nat} {key : Key}
      (hcall : call = .answer (.commentList entries cursor picked) key) (h : Dialog.chosen entries cursor picked ≠ []) :
      v.Jumps call (.jumpTo (Dialog.chosen entries cursor picked)) v.session.clearResults.1
        (Dialog.chosen entries cursor picked)

/-- What a handler does to a viewer. -/
inductive Effect (call : Call) (v : Viewer) : Viewer → Prop
  | looks {v' : Viewer} (h : v.Looks v') : v.Effect call v'
  /-- The keyword is dropped, and there is nothing to jump to. -/
  | untypes {v' : Viewer} (h : ({ v with query := "" } : Viewer).Looks v') : v.Effect call v'
  /-- An accepted edit is journalled together with the nodes that it affected. -/
  | edits {e : Edit} {touched : Touched} {session : Session} (h : v.session.edit e = (session, .ok touched))
      (known : ∀ j, e.change = .judge j → j ∈ v.context.judgments)
      (written : ∀ text, e.change = .comment text → ∃ node text, call = .answer (.commentEditor node text) .enter) :
      v.Effect call (({ v with session }).post touched.affected e.change.action).refresh
  | unfolds {op : Session.Operation} (hop : op.Unfolds) {v' : Viewer}
      (h : ({ v with session := v.session.operate op } : Viewer).refresh.Looks v') : v.Effect call v'
  /-- The cursor of the tree pane goes along with that of the result. -/
  | steps {op : Session.Operation} (hop : op = .next ∨ op = .previous) (node : NodeId) :
      v.Effect call (({ v with session := v.session.operate op } : Viewer).focus node)
  | clears : v.Effect call
      ({ v.dropWaiting with session := v.session.clearResults.1, query := "", mode := .inactive } : Viewer).refresh
  | jumps {op : Session.Operation} {s : Session} {hits : List NodeId} (hj : v.Jumps call op s hits) {v' : Viewer}
      (h : ({ v with query := "" } : Viewer).Presents s hits v') : v.Effect call v'
  /-- The jump that the dialog has asked about. -/
  | takes {node : NodeId} {callee : String} {candidates : List NodeId} {key : Key}
      (hcall : call = .answer (.jumpOrOpen node callee candidates) key) {v' : Viewer}
      (h : v.Presents (v.session.visit node) candidates v') : v.Effect call v'
  /-- The callee of the node is looked for and not found. -/
  | loses (hcall : call = .command .jumpCallee ∨ call = .command .jumpOrOpen) {id : NodeId}
      (hid : v.tree.selected? = some id) {v' : Viewer}
      (h : ({ v with session := (v.session.calleeChoice id).1, query := "" } : Viewer).refresh.Looks v') :
      v.Effect call v'
  | opens {command : TreeCommand} (hcall : call = .command command) {d : Dialog} (hd : d.Opens v.session) :
      v.Effect call { v with dialog := some d }
  /-- The callee of the node is found, and it is asked whether to jump. -/
  | asks (hcall : call = .command .jumpOrOpen) {id : NodeId} (hid : v.tree.selected? = some id) {session : Session}
      {callee : String} {candidates : List NodeId} (h : v.session.calleeChoice id = (session, .ask callee candidates)) :
      v.Effect call { ({ v with session, query := "" } : Viewer).refresh with
        dialog := some (.jumpOrOpen id callee candidates) }
  /-- A keyword will be typed. -/
  | begins (hcall : call = .command .typeKeyword) : v.Effect call { v with mode := .editing }
  /-- The next scope, where no keyword is typed. -/
  | idles (hcall : call = .command .cycleScope) (h : v.query = "") :
      v.Effect call (({ v with scope := v.scope.next } : Viewer).say ("Data source: " ++ v.scope.next.name))
  /-- The next scope, where the keyword that is typed is searched for. -/
  | cycles (hcall : call = .command .cycleScope) (hq : v.query ≠ "") {v' : Viewer}
      (h : ({ v with
        scope := v.scope.next
        session := v.session.operate (.changeScope v.query v.scope.next) } : Viewer).refresh.Looks v') :
      v.Effect call v'

/-! ## Searches -/

/-- A search steps through the result, or goes through the outline anew. -/
inductive Searches (v : Viewer) (keyword : String) : Viewer → Prop
  | steps (node : NodeId) : v.Searches keyword (({ v with session := v.session.operate .next } : Viewer).focus node)
  | anew {v' : Viewer}
      (h : ({ v with session := v.session.operate (.search keyword v.scope) } : Viewer).refresh.Looks v') :
      v.Searches keyword v'

/-- What a key does to the keyword that is typed. -/
inductive Spells (v : Viewer) : Viewer → Prop
  | stays : v.Spells v
  | retypes (query : String) (waiting : Debouncer String) : v.Spells { v with query, waiting }
  | leaves : v.Spells v.dropWaiting.stopTyping
  | accepts {v' : Viewer} (h : v.dropWaiting.Searches v.query v') : v.Spells v'.stopTyping

variable {call : Call} {v v' : Viewer}

/-! ## What is shown -/

namespace Looks

variable {tree : TreePane}

/-- The cursor goes somewhere, the help or the text tree is opened, a message is left. -/
theorem shows (h : v.tree.Goes v.session.outline tree) (textTree : Option TextPane) (help : HelpPane)
    (notice : Option String) (quit : Bool) : v.Looks { v with tree, textTree, help, notice, quit } :=
  ⟨rfl, h, .inl rfl, [], fun _ hr => absurd hr List.not_mem_nil, (List.append_nil _).symm⟩

theorem refl (v : Viewer) : v.Looks v := shows .stays v.textTree v.help v.notice v.quit

theorem say (v : Viewer) (message : String) : v.Looks (v.say message) := shows .stays v.textTree v.help _ v.quit

theorem move (v : Viewer) (m : Motion) : v.Looks { v with tree := v.tree.move m } :=
  shows (.moves m) v.textTree v.help v.notice v.quit

theorem focus (v : Viewer) (id : NodeId) : v.Looks (v.focus id) :=
  shows (.focuses id) v.textTree v.help v.notice v.quit

/-- It does not matter what the message was. -/
theorem of_say {message : String} (h : (v.say message).Looks v') : v.Looks v' := ⟨h.eq, h.goes, h.opens, h.asks⟩

/-- An entry that tells of no change. -/
theorem post (v : Viewer) (ids : List NodeId) {action : Journal.Action} (h : action.isQuiet = true) :
    v.Looks (v.post ids action) := by
  have hquiet : (Request.journal (.on v.context.identity v.session.outline ids action)).isQuiet = true := h
  exact ⟨rfl, .stays, .inl rfl, [_], List.forall_mem_singleton.2 hquiet, rfl⟩

theorem openSource (v : Viewer) (id : NodeId) : v.Looks (v.openSource id) := by
  unfold Viewer.openSource
  split
  · exact .refl v
  · split
    · exact .say v _
    · next request _ =>
      have hquiet : ∀ r ∈ [Request.journal (.on v.context.identity v.session.outline [id] .openSource),
          .source request], r.isQuiet = true := by
        intro r hr
        rcases List.mem_pair.1 hr with rfl | rfl <;> rfl
      exact ⟨rfl, .stays, .inr ⟨request, rfl⟩, _, hquiet, List.append_assoc _ [_] [_]⟩

/-- What a search has found is shown, unless it has stepped through the result. -/
theorem applyOutcome (v : Viewer) {outcome : SearchOutcome} (h : ¬outcome.IsAdvanced) :
    v.refresh.Looks (v.applyOutcome outcome) := by
  cases outcome with
  | cleared deselected => exact .refl _
  | advanced cursor node => exact absurd ⟨cursor, node, rfl⟩ h
  | scanned keyword scope presented =>
    have hentry : ∀ r ∈ [Request.journal (.on v.context.identity v.session.outline [] (.search keyword scope))],
        r.isQuiet = true := List.forall_mem_singleton.2 rfl
    unfold Viewer.applyOutcome
    dsimp only
    split
    · next first _ => exact ⟨rfl, .focuses first, .inl rfl, _, hentry, rfl⟩
    · exact ⟨rfl, .stays, .inl rfl, _, hentry, rfl⟩

variable (h : v.Looks v')
include h

theorem session_eq : v'.session = v.session := by rw [h.eq]

theorem context_eq : v'.context = v.context := by rw [h.eq]

theorem control_eq : v'.control = v.control := by
  rw [h.eq]
  rfl

theorem alerts_eq : v'.alerts = v.alerts := by rw [h.eq]

end Looks

/-! ## What is presented -/

/-- A presented result is shown once the rows are up to date, and the mode tells of it. -/
theorem presents_showPresented (v : Viewer) (s : Session) (hits : List NodeId) (what : String) :
    v.Presents s hits (({ v with session := (s.presentAll "" hits).1 } : Viewer).showPresented
      (s.presentAll "" hits).2 what) := by
  unfold showPresented
  dsimp only
  split
  · next first h => exact ⟨.shows (.focuses first) _ _ _ _, by rw [h]; rfl, rfl⟩
  · next h => exact ⟨.say _ _, by rw [h]; rfl, rfl⟩

namespace Presents

variable {s : Session} {hits : List NodeId} (h : v.Presents s hits v')
include h

theorem session_eq : v'.session = (s.presentAll "" hits).1 := h.looks.session_eq

theorem context_eq : v'.context = v.context := h.looks.context_eq

/-- Nothing but the mode is changed of the control. -/
theorem control_eq : v'.control = { v.control with mode := v'.mode } :=
  congrArg (fun c : Control => { c with mode := v'.mode }) h.looks.control_eq

end Presents

/-- The operation of a jump comes to presenting its nodes. -/
theorem Jumps.operate_eq {op : Session.Operation} {s : Session} {hits : List NodeId} (h : v.Jumps call op s hits) :
    v.session.operate op = (s.presentAll "" hits).1 := by
  cases h with
  | targets hcall hne =>
    have hsome : v.session.targetOrder.isEmpty = false := List.isEmpty_eq_false_iff.2 hne
    simp [Session.operate, Session.jumpToTargets, hsome]
  | callee hcall hid hchoice => exact congrArg Prod.fst (Session.jumpToCallee_of_ask hchoice)
  | @comments entries cursor picked key hcall hne =>
    have hsome : (Dialog.chosen entries cursor picked).isEmpty = false := List.isEmpty_eq_false_iff.2 hne
    simp [Session.operate, Session.jumpTo, hsome]

end Viewer

end LoopSurvey
