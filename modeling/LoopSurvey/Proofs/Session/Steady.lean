import LoopSurvey.Proofs.Outline.LineOrder
import LoopSurvey.Proofs.Session.Moves
import LoopSurvey.Proofs.Session.Unedited
/-!
# What runs keep

Whatever is done with a session, its tables stay as they are (`tables_run`), and its outline stays the same but
for states, selected judgments, chosen levels, comments and completion (`sameUnedited_run`). So the order of the
targets, once taken, is what ordering them anew would give (`ordered_run`). A property of nodes that does not
look at what is shown, and that every change keeps, holds of all nodes of a run if it holds of them at its
beginning (`Moves.forall_nodes`). Each of these is shown for one move and holds of runs by `moves_run`.
-/

namespace LoopSurvey

/-! ## Nodes without edits -/

/-- Of a mark that has been moved nothing is left once it is moved again. -/
theorem Mark.withCompletion_withCompletion (m : Mark) (completed completed' : Bool) :
    (m.withCompletion completed).withCompletion completed' = m.withCompletion completed' := by
  cases m <;> cases completed <;> rfl

namespace Label

/-- The label as it is before anything is judged, chosen or written. -/
def unedited (l : Label) : Label where
  text := l.text
  judgment := l.judgment.map fun _ => .notYet
  estimation := l.estimation.map fun e => ⟨0, e.levels, Nat.zero_lt_of_lt e.level_lt⟩
  comment := none
  mark := l.mark.withCompletion false

theorem unedited_judge (l : Label) (j : Judgment) : (l.judge j).unedited = l.unedited := by
  simp [unedited, judge, Mark.withCompletion_withCompletion, Function.comp_def]

theorem unedited_setComment (l : Label) (text : String) : (l.setComment text).unedited = l.unedited := rfl

theorem levels_at? (e : Estimation) (level : Nat) :
    ((Estimation.at? level e.levels).getD e).levels = e.levels := by
  unfold Estimation.at?
  split <;> rfl

theorem unedited_withLevel (l : Label) (level : Nat) : (l.withLevel level).unedited = l.unedited := by
  simp [unedited, withLevel, Function.comp_def, levels_at?]

end Label

/-- The node as it is before anything is edited or shown. -/
def Node.unedited (n : Node) : Node := { n with state := {}, label := n.label.unedited }

/-- What a change makes of a node. -/
def Change.apply (c : Change) (n : Node) : Node :=
  match c with
  | .judge j => { n with label := n.label.judge j }
  | .setLevel level => { n with label := n.label.withLevel level }
  | .comment text => { n with label := n.label.setComment text }
  | .check checked => { n with state := { n.state with checked } }
  | .setOpened opened => { n with state := { n.state with opened } }

namespace Change

theorem unedited_apply (c : Change) (n : Node) : (c.apply n).unedited = n.unedited := by
  cases c with
  | judge j => exact congrArg (Node.mk n.id n.kind n.payload {}) (n.label.unedited_judge j)
  | setLevel level => exact congrArg (Node.mk n.id n.kind n.payload {}) (n.label.unedited_withLevel level)
  | comment text => exact congrArg (Node.mk n.id n.kind n.payload {}) (n.label.unedited_setComment text)
  | check checked => rfl
  | setOpened opened => rfl

/-- A change is made to the listed nodes alone. -/
theorem forest_make (c : Change) (o : Outline) (ids : List NodeId) :
    (c.make o ids).forest = o.forest.map fun n => if n.id ∈ ids then c.apply n else n := by
  cases c <;> exact Forest.map_congr fun n _ => by dsimp only [apply]; split <;> rfl

theorem id_apply (c : Change) (n : Node) : (c.apply n).id = n.id := by
  cases c <;> rfl

/-- A node of the outline is there after a change, changed if it is listed. -/
theorem node?_make (c : Change) {o : Outline} (ids : List NodeId) {n : Node} (hn : n ∈ o.nodes) :
    (c.make o ids).node? n.id = some (if n.id ∈ ids then c.apply n else n) := by
  have hid : ∀ m : Node, (if m.id ∈ ids then c.apply m else m).id = m.id := by
    intro m
    split
    · exact c.id_apply m
    · rfl
  rw [Outline.node?_of_map (c.forest_make o ids) hid, Outline.node?_of_mem hn, Option.map_some]

end Change

namespace Outline

/-- Equal but for what edits change and what is shown. -/
def SameUnedited (o o' : Outline) : Prop := o.forest.map Node.unedited = o'.forest.map Node.unedited

theorem SameUnedited.refl (o : Outline) : o.SameUnedited o := rfl

theorem SameUnedited.trans {o o' o'' : Outline} (h : o.SameUnedited o') (h' : o'.SameUnedited o'') :
    o.SameUnedited o'' :=
  Eq.trans h h'

theorem Alike.sameUnedited {o o' : Outline} (h : o.Alike o') : o.SameUnedited o' := by
  have hun : ∀ t : Forest Node, t.map Node.unedited = (t.map Node.unshown).map Node.unedited := fun t => by
    rw [Forest.map_map]
    rfl
  unfold SameUnedited
  rw [hun o.forest, hun o'.forest, h]

theorem sameUnedited_make (o : Outline) (c : Change) (ids : List NodeId) : o.SameUnedited (c.make o ids) := by
  unfold SameUnedited
  rw [c.forest_make, Forest.map_map]
  refine Forest.map_congr fun n _ => ?_
  dsimp only [Function.comp]
  split
  · exact (c.unedited_apply n).symm
  · rfl

section Common

variable {o o' : Outline} (h : o.SameUnedited o')
include h

theorem SameUnedited.map_nodes : o.nodes.map Node.unedited = o'.nodes.map Node.unedited := by
  have hnodes := congrArg Forest.preorder h
  rwa [Forest.preorder_map, Forest.preorder_map] at hnodes

theorem SameUnedited.ids : o.ids = o'.ids := by
  have hids := congrArg (List.map Node.id) h.map_nodes
  rwa [List.map_map, List.map_map] at hids

theorem SameUnedited.contains : o.contains = o'.contains := by
  funext id
  rw [Bool.eq_iff_iff, contains_iff, contains_iff, h.ids]

theorem SameUnedited.sortByLine (ids : List NodeId) : o.sortByLine ids = o'.sortByLine ids := by
  have hkey : ∀ id, o.lineKey? id = o'.lineKey? id := lineKey?_of_map_eq (f := Node.unedited) (fun _ => rfl) (fun _ => rfl) h
  simp only [Outline.sortByLine, hkey]

/-- Each node is a node of the other outline, edited and shown differently at most. -/
theorem SameUnedited.exists_of_mem {n : Node} (hn : n ∈ o'.nodes) : ∃ m ∈ o.nodes, m.unedited = n.unedited :=
  List.mem_map.1 (h.map_nodes ▸ List.mem_map_of_mem hn)

end Common

end Outline

namespace Session

variable {s s' : Session}

/-! ## Outlines and tables -/

theorem Move.tables (h : Move s s') : s'.tables = s.tables := by
  cases h with
  | present keyword hits =>
    rcases s.present_cases keyword (s.ancestorsOf hits) hits with ⟨-, he⟩ | ⟨-, he⟩ <;> rw [presentAll, he]
  | visit id =>
    obtain ⟨history, he⟩ := s.visit_eq id
    rw [he]
  | _ => rfl

theorem Move.sameUnedited (h : Move s s') : s.outline.SameUnedited s'.outline := by
  cases h with
  | clear => exact s.alike_clearResults.sameUnedited
  | present keyword hits => exact (s.alike_present keyword _ hits).sameUnedited
  | visit id =>
    obtain ⟨history, he⟩ := s.visit_eq id
    rw [he]
    exact .refl s.outline
  | change c ids => exact s.outline.sameUnedited_make c ids
  | _ => exact .refl s.outline

theorem Moves.tables (h : Moves s s') : s'.tables = s.tables :=
  h.keeps (P := fun t => t.tables = s.tables) (fun hmove ht => hmove.tables.trans ht) rfl

/-- No operation changes the tables. -/
theorem tables_run (s : Session) (operations : List Operation) : (s.run operations).tables = s.tables :=
  (s.moves_run operations).tables

theorem Moves.sameUnedited (h : Moves s s') : s.outline.SameUnedited s'.outline :=
  h.keeps (P := fun t => s.outline.SameUnedited t.outline) (fun hmove ht => ht.trans hmove.sameUnedited)
    (.refl s.outline)

/-- Operations only change what is edited and what is shown. -/
theorem sameUnedited_run (s : Session) (operations : List Operation) :
    s.outline.SameUnedited (s.run operations).outline := (s.moves_run operations).sameUnedited

/-! ## The order of the targets -/

/-- The targets have been put in order: to do so anew would change nothing. -/
def Ordered (s : Session) : Prop := s.orderTargets = s

theorem ordered_iff :
    s.Ordered ↔ s.targetOrder = s.outline.sortByLine (s.tables.targets.filter s.outline.contains) := by
  unfold Ordered orderTargets
  constructor
  · intro h
    exact (congrArg targetOrder h).symm
  · intro h
    rw [← h]

/-- Only a move that orders the targets changes their order. -/
theorem Move.targetOrder (h : Move s s') : s'.targetOrder = s.targetOrder ∨ s' = s.orderTargets := by
  cases h with
  | present keyword hits =>
    rcases s.present_cases keyword (s.ancestorsOf hits) hits with ⟨-, he⟩ | ⟨-, he⟩ <;> rw [presentAll, he] <;>
      exact .inl rfl
  | visit id =>
    obtain ⟨history, he⟩ := s.visit_eq id
    rw [he]
    exact .inl rfl
  | order => exact .inr rfl
  | _ => exact .inl rfl

theorem Move.ordered (h : Move s s') (hs : s.Ordered) : s'.Ordered := by
  rcases h.targetOrder with ho | rfl
  -- line keys only look at payloads, which no move changes
  · rw [ordered_iff] at hs ⊢
    rw [ho, h.tables, ← h.sameUnedited.contains, ← h.sameUnedited.sortByLine]
    exact hs
  · exact congrArg orderTargets hs

theorem ordered_makeReady (s : Session) : s.makeReady.1.Ordered := by
  unfold makeReady
  dsimp only
  split <;> rfl

/-- The targets stay in order. -/
theorem ordered_run (h : s.Ordered) (operations : List Operation) : (s.run operations).Ordered :=
  (s.moves_run operations).keeps Move.ordered h

/-- Targets in order stay in the same order: ordering them once more would change nothing. -/
theorem Moves.targetOrder (h : Moves s s') (hs : s.Ordered) :
    s'.Ordered ∧ s'.targetOrder = s.targetOrder := by
  refine h.keeps (P := fun t => t.Ordered ∧ t.targetOrder = s.targetOrder) (fun hmove ht => ?_) ⟨hs, rfl⟩
  refine ⟨hmove.ordered ht.1, ?_⟩
  rcases hmove.targetOrder with ho | rfl
  · exact ho.trans ht.2
  · exact (congrArg Session.targetOrder ht.1).trans ht.2

/-- The targets in order are the targets that are in the outline. -/
theorem Ordered.mem_targetOrder (h : s.Ordered) {id : NodeId} :
    id ∈ s.targetOrder ↔ id ∈ s.tables.targets ∧ id ∈ s.outline.ids := by
  rw [ordered_iff.1 h, Outline.mem_sortByLine, List.mem_filter, Outline.contains_iff]

/-! ## Properties of nodes -/

section Nodes

variable {P : Node → Prop} (hshown : ∀ n, P n.unshown ↔ P n) (hchange : ∀ (c : Change) n, P n → P (c.apply n))
include hshown

theorem forall_nodes_of_alike {o o' : Outline} (ha : o.Alike o') (h : ∀ n ∈ o.nodes, P n) :
    ∀ n ∈ o'.nodes, P n := by
  intro n hn
  have hnodes := ha.map_nodes (g := Node.unshown) fun _ => rfl
  obtain ⟨m, hm, hmn⟩ := List.mem_map.1 (hnodes ▸ List.mem_map_of_mem hn)
  rw [← hshown, ← hmn, hshown]
  exact h m hm

include hchange

theorem Move.forall_nodes (hmove : Move s s') (h : ∀ n ∈ s.outline.nodes, P n) : ∀ n ∈ s'.outline.nodes, P n := by
  cases hmove with
  | clear => exact forall_nodes_of_alike hshown s.alike_clearResults h
  | present keyword hits => exact forall_nodes_of_alike hshown (s.alike_present keyword _ hits) h
  | visit id =>
    obtain ⟨history, he⟩ := s.visit_eq id
    rw [he]
    exact h
  | change c ids =>
    intro n hn
    rw [withOutline, Outline.nodes_of_map (c.forest_make s.outline ids)] at hn
    obtain ⟨m, hm, rfl⟩ := List.mem_map.1 hn
    split
    · exact hchange c m (h m hm)
    · exact h m hm
  | _ => exact h

/-- What every change keeps is kept by moves. -/
theorem Moves.forall_nodes (hmoves : Moves s s') (h : ∀ n ∈ s.outline.nodes, P n) :
    ∀ n ∈ s'.outline.nodes, P n :=
  hmoves.keeps (P := fun t => ∀ n ∈ t.outline.nodes, P n) (fun hmove => hmove.forall_nodes hshown hchange) h

end Nodes

end Session

end LoopSurvey
