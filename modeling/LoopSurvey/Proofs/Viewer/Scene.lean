import Mathlib.Logic.Relation
import LoopSurvey.Proofs.Viewer.Response
/-!
# What keys and ticks do to the scene

The scene of a viewer (`Viewer.scene`) is its session with the tree pane that shows it, and the keyword and the
scope that are searched with. Handlers change it in acts (`Scene.Act`): the rows are brought up to date in each
act that may change the outline, and whatever is searched for is searched for in the scope. Every key and every
tick comes to such acts, or goes on to the next scope, or changes a comment (`turn_step`).
-/

namespace LoopSurvey

/-- What is searched and shown: the session, the tree pane, the keyword and the scope. -/
structure Scene where
  session : Session
  tree : TreePane
  query : String
  scope : SearchScope

namespace Scene

/-- An operation is carried out, and the rows are brought up to date. -/
def operated (s : Scene) (op : Session.Operation) : Scene :=
  { s with session := s.session.operate op, tree := s.tree.refresh (s.session.operate op).outline }

/-- A change of the scene that leaves the scope and all comments alone. -/
inductive Act (s : Scene) : Scene → Prop
  | move (m : Motion) : Act s { s with tree := s.tree.move m }
  | focus (id : NodeId) : Act s { s with tree := s.tree.focus s.session.outline id }
  | retype (query : String) : Act s { s with query }
  /-- The cursor moves in the active result. -/
  | look (results : Results) (nodes_eq : results.nodes = s.session.results.nodes)
      (keyword_eq : results.keyword = s.session.results.keyword) :
      Act s { s with session := { s.session with results } }
  | operate (op : Session.Operation) (h : op.Within s.scope) : Act s (s.operated op)
  /-- The jump that a dialog has asked about. -/
  | jump (node : NodeId) (candidates : List NodeId) :
      Act s { s with
        session := (s.session.jumpToCandidates node candidates).1
        tree := s.tree.refresh (s.session.jumpToCandidates node candidates).1.outline }

/-- Acts, one after the other. -/
abbrev Acts : Scene → Scene → Prop := Relation.ReflTransGen Act

/-- What a key or a tick may do: some acts, or a step on to the next scope, or a change of a comment if that is
what it is about. -/
inductive Turn (commented : Prop) (s : Scene) : Scene → Prop
  | acts {s' : Scene} (h : s.Acts s') : Turn commented s s'
  /-- Where no keyword is typed, nothing but the scope changes. -/
  | idles (h : s.query = "") : Turn commented s { s with scope := s.scope.next }
  /-- The keyword that is typed is searched for in the next scope. -/
  | cycles {s' : Scene} (h : s.query ≠ "")
      (acts : Acts (({ s with scope := s.scope.next } : Scene).operated (.changeScope s.query s.scope.next)) s') :
      Turn commented s s'
  | comments (h : commented) (e : Edit) : Turn commented s (s.operated (.edit e))

namespace Turn

variable {s s' : Scene} {commented commented' : Prop}

theorem of_eq (h : s' = s) : Turn commented s s' := h ▸ .acts .refl

theorem imp (h : commented → commented') (ht : Turn commented s s') : Turn commented' s s' := by
  cases ht with
  | acts h => exact .acts h
  | idles h => exact .idles h
  | cycles h acts => exact .cycles h acts
  | comments hc e => exact .comments (h hc) e

end Turn

end Scene

namespace Viewer

open Scene (Acts Turn)

variable {call : Call} {v v' : Viewer}

/-- The scene of a viewer. -/
def scene (v : Viewer) : Scene := ⟨v.session, v.tree, v.query, v.scope⟩

/-! ## What leaves the scene alone -/

theorem scene_of_pressSource? {pane : SourcePane} {key : Key} (h : v.pressSource? pane key = some v') :
    v'.scene = v.scene := by
  obtain ⟨source, notice, rfl⟩ := eq_of_pressSource? h
  rfl

theorem scene_nextDialog (v : Viewer) : v.nextDialog.scene = v.scene := by
  obtain ⟨dialog, alerts, he⟩ := v.nextDialog_eq
  rw [he]
  rfl

theorem scene_receiveAll (v : Viewer) (arrivals : List Arrival) : (v.receiveAll arrivals).scene = v.scene := by
  obtain ⟨dialog, source, alerts, notice, he⟩ := v.receiveAll_eq arrivals
  rw [he]
  rfl

/-! ## Effects -/

theorem Looks.scene_eq (h : v.Looks v') : v'.scene = { v.scene with tree := v'.tree } := by
  rw [h.eq]
  rfl

theorem Looks.acts (h : v.Looks v') : Acts v.scene v'.scene := by
  have hgoes := h.goes
  rw [h.scene_eq]
  generalize v'.tree = tree at hgoes
  cases hgoes with
  | stays => exact .refl
  | moves m => exact .single (.move m)
  | focuses id => exact .single (.focus id)

theorem Searches.acts {keyword : String} (h : v.Searches keyword v') : Acts v.scene v'.scene := by
  cases h with
  | steps node => exact .tail (.single (.look _ (Session.nodes_advance _) (Session.keyword_advance _))) (.focus node)
  | anew h => exact .head (.operate (.search keyword v.scope) rfl) h.acts

theorem Spells.acts (h : v.Spells v') : Acts v.scene v'.scene := by
  cases h with
  | stays => exact .refl
  | retypes query waiting => exact .single (.retype query)
  | leaves => exact .refl
  | accepts h => exact h.acts

/-- A jump is made without a keyword. -/
theorem Jumps.acts {op : Session.Operation} {s : Session} {hits : List NodeId} (hj : v.Jumps call op s hits)
    (h : ({ v with query := "" } : Viewer).Presents s hits v') : Acts v.scene v'.scene := by
  have hop : op.Within v.scope := by cases hj <;> trivial
  have hpresented : ({ v with query := "", session := (s.presentAll "" hits).1 } : Viewer).refresh.scene =
      ({ v.scene with query := "" } : Scene).operated op := by
    rw [← hj.operate_eq]
    rfl
  have hlooks : Acts (({ v.scene with query := "" } : Scene).operated op) v'.scene := hpresented ▸ h.looks.acts
  exact .head (.retype "") (.head (.operate op hop) hlooks)

/-- Whatever a handler does comes to acts, or to a step on to the next scope, or it changes the comment that is
accepted. -/
theorem Effect.turn (h : v.Effect call v') :
    Turn (∃ node text, call = .answer (.commentEditor node text) .enter) v.scene v'.scene := by
  cases h with
  | looks h => exact .acts h.acts
  | untypes h => exact .acts (.head (.retype "") h.acts)
  | @edits e touched session h known written =>
    obtain rfl : v.session.operate (.edit e) = session := congrArg Prod.fst h
    by_cases hcomment : ∃ text, e.change = .comment text
    · obtain ⟨text, htext⟩ := hcomment
      exact .comments (written text htext) e
    · exact .acts (.single (.operate (.edit e) fun text htext => hcomment ⟨text, htext⟩))
  | @unfolds op hop v' h =>
    have hwithin : op.Within v.scope := by cases hop <;> trivial
    exact .acts (.head (.operate op hwithin) h.acts)
  | steps hop node =>
    rcases hop with rfl | rfl
    · exact .acts (.tail (.single (.look _ (Session.nodes_advance _) (Session.keyword_advance _))) (.focus node))
    · exact .acts (.tail (.single (.look _ (Session.nodes_retreat _) (Session.keyword_retreat _))) (.focus node))
  | clears => exact .acts (.head (.retype "") (.single (.operate .clearResults trivial)))
  | jumps hj h => exact .acts (hj.acts h)
  | takes hcall h => exact .acts (.head (.jump _ _) h.looks.acts)
  | @loses hcall id hid v' h => exact .acts (.head (.retype "") (.head (.operate (.calleeChoice id) trivial) h.acts))
  | opens hcall hd => exact .of_eq rfl
  | @asks hcall id hid session callee candidates h =>
    obtain rfl : v.session.operate (.calleeChoice id) = session := congrArg Prod.fst h
    exact .acts (.head (.retype "") (.single (.operate (.calleeChoice id) trivial)))
  | begins hcall => exact .of_eq rfl
  | idles hcall hq => exact .idles hq
  | cycles hcall hq h => exact .cycles hq h.acts

/-! ## Every key and every tick -/

/-- The key that accepts the comment that is written. -/
def EditsComment (v : Viewer) (event : ViewerEvent) : Prop :=
  v.help.shown = false ∧ (∃ node text, v.dialog = some (.commentEditor node text)) ∧
    ∃ now, event = .key now .enter

theorem Response.turn {event : ViewerEvent} (h : v.Response event v') :
    Turn (v.EditsComment event) v.scene v'.scene := by
  cases h with
  | helps => exact .of_eq rfl
  | asks => exact .of_eq rfl
  | dismisses => exact .of_eq (scene_nextDialog _)
  | closes now key hhelp hd halert h =>
    rw [scene_nextDialog]
    refine h.turn.imp fun hwritten => ?_
    obtain ⟨node, text, hcall⟩ := hwritten
    cases hcall
    exact ⟨hhelp, ⟨node, text, hd⟩, now, rfl⟩
  | spells now key hhelp hd hm h => exact .acts h.acts
  | reads => exact .of_eq rfl
  | scrolls now key hhelp hd hp h => exact .of_eq (scene_of_pressSource? h)
  | moves now key hp h => exact .acts h.acts
  | performs now key hp hmotion hcommand h => exact h.turn.imp fun ⟨_, _, hcall⟩ => nomatch hcall
  | waits now arrivals => exact .of_eq (scene_receiveAll v arrivals)
  | fires now arrivals hdue h =>
    rw [scene_receiveAll]
    exact .acts h.acts

/-- **What keys and ticks do to the scene**: some acts, or a step on to the next scope, or a change of the
comment that is accepted. -/
theorem turn_step (v : Viewer) (event : ViewerEvent) : Turn (v.EditsComment event) v.scene (v.step event).scene :=
  (v.response_step event).turn

end Viewer

end LoopSurvey
