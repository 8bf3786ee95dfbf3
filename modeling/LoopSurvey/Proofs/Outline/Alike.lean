import LoopSurvey.Outline.LineKey
import LoopSurvey.Proofs.Outline.Mapping
/-!
# Outlines that differ in what is shown

Two outlines are alike when they are equal but for the nodes that are opened or selected
(`Outline.Alike`). What is read off identifiers, payloads, labels, checks and ancestors is the same in
alike outlines: the identifiers (`Alike.ids`), the nodes with a property (`Alike.ids_filter`) and the
line keys (`Alike.lineKey?`). Opening, closing and selecting nodes gives an alike outline.
-/

namespace LoopSurvey

/-- The node, neither opened nor selected. -/
def Node.unshown (n : Node) : Node := { n with state := { checked := n.state.checked } }

/-- The line key only looks at payloads. -/
theorem Place.lineKey_map {f : Node → Node} (hf : ∀ n, (f n).payload = n.payload) (p : Place Node) :
    (p.map f).lineKey = p.lineKey := by
  have hsignature : ∀ n, (f n).signature = n.signature := fun n => by simp only [Node.signature, hf]
  have hline : ∀ n, (f n).line = n.line := fun n => by simp only [Node.line, hf]
  have hextend : ∀ (above : List Node) signature key,
      LineKey.extend signature key (above.map f) = LineKey.extend signature key above := by
    intro above
    induction above with
    | nil => intros; rfl
    | cons a above ih =>
      intro signature key
      simp only [List.map_cons, LineKey.extend, ih, hsignature, hline]
  simp only [lineKey, map, hextend, hsignature, hline]

namespace Outline

/-- Line keys are the same where identifiers and payloads are. -/
theorem lineKey?_of_map_eq {o o' : Outline} {f : Node → Node} (hid : ∀ n, (f n).id = n.id)
    (hpayload : ∀ n, (f n).payload = n.payload) (h : o.forest.map f = o'.forest.map f) (id : NodeId) :
    o.lineKey? id = o'.lineKey? id := by
  have hun : ∀ o : Outline, o.lineKey? id = ((o.forest.map f).find? (·.id = id)).map Place.lineKey := fun o => by
    have hfound : (fun n : Node => decide (n.id = id)) ∘ f = fun n => decide (n.id = id) :=
      funext fun n => by rw [Function.comp, hid]
    rw [Forest.find?_map, Option.map_map, hfound]
    exact Option.map_congr fun p _ => (p.lineKey_map hpayload).symm
  rw [hun o, hun o', h]

/-- Equal but for the nodes that are opened or selected. -/
def Alike (o o' : Outline) : Prop := o.forest.map Node.unshown = o'.forest.map Node.unshown

theorem Alike.refl (o : Outline) : o.Alike o := rfl

theorem Alike.symm {o o' : Outline} (h : o.Alike o') : o'.Alike o := Eq.symm h

theorem Alike.trans {o o' o'' : Outline} (h : o.Alike o') (h' : o'.Alike o'') : o.Alike o'' :=
  Eq.trans h h'

/-! ## What alike outlines have in common -/

section Common

variable {o o' : Outline} (h : o.Alike o')
include h

/-- What does not depend on being opened or selected is the same node by node. -/
theorem Alike.map_nodes {β : Type} {g : Node → β} (hg : ∀ n, g n.unshown = g n) :
    o.nodes.map g = o'.nodes.map g := by
  have hun : ∀ o : Outline, (o.forest.map Node.unshown).preorder.map g = o.nodes.map g := fun o => by
    rw [Forest.preorder_map, List.map_map]
    exact List.map_congr_left fun n _ => hg n
  rw [← hun o, ← hun o', h]

theorem Alike.ids : o.ids = o'.ids := h.map_nodes fun _ => rfl

/-- The nodes with a property that does not depend on being opened or selected are the same. -/
theorem Alike.ids_filter {p : Node → Bool} (hp : ∀ n, p n.unshown = p n) :
    (o.nodes.filter p).map Node.id = (o'.nodes.filter p).map Node.id := by
  have hun : ∀ o : Outline, (o.nodes.filter p).map Node.id =
      ((o.nodes.map fun n => (p n, n.id)).filter (·.1)).map (·.2) := fun o => by
    rw [List.filter_map, List.map_map]
    rfl
  rw [hun o, hun o', h.map_nodes fun n => by rw [hp]; rfl]

theorem Alike.lineKey? (id : NodeId) : o.lineKey? id = o'.lineKey? id :=
  lineKey?_of_map_eq (f := Node.unshown) (fun _ => rfl) (fun _ => rfl) h id

theorem Alike.sortByLine (ids : List NodeId) : o.sortByLine ids = o'.sortByLine ids := by
  simp only [Outline.sortByLine, h.lineKey?]

/-- The same change made to alike outlines gives alike outlines, if it does not depend on being
opened or selected. -/
theorem Alike.of_map {p p' : Outline} {f : Node → Node} (hp : p.forest = o.forest.map f)
    (hp' : p'.forest = o'.forest.map f) (hf : ∀ n, (f n.unshown).unshown = (f n).unshown) :
    p.Alike p' := by
  have hun : ∀ t : Forest Node,
      (t.map f).map Node.unshown = ((t.map Node.unshown).map f).map Node.unshown := fun t => by
    rw [Forest.map_map, Forest.map_map, Forest.map_map]
    exact Forest.map_congr fun n _ => (hf n).symm
  unfold Alike
  rw [hp, hp', hun, hun o'.forest, h]

end Common

/-! ## Changes of what is shown -/

/-- A change of what is shown gives an alike outline. -/
theorem alike_of_map {o o' : Outline} {f : Node → Node} (h : o'.forest = o.forest.map f)
    (hf : ∀ n, (f n).unshown = n.unshown) : o.Alike o' := by
  unfold Alike
  rw [h, Forest.map_map]
  exact Forest.map_congr fun n _ => (hf n).symm

theorem alike_setOpened (o : Outline) (ids : List NodeId) (b : Bool) : o.Alike (o.setOpened ids b) :=
  alike_of_map rfl fun n => by dsimp only [Node.unshown]; split <;> rfl

theorem alike_setSelected (o : Outline) (ids : List NodeId) (b : Bool) :
    o.Alike (o.setSelected ids b) :=
  alike_of_map rfl fun n => by dsimp only [Node.unshown]; split <;> rfl

theorem alike_expandAll (o : Outline) (id : NodeId) : o.Alike (o.expandAll id).1 := by
  obtain ⟨ids, h⟩ := changeSubtree_eq o id true
  rw [expandAll, h]
  exact alike_setOpened o ids true

theorem alike_collapseAll (o : Outline) (id : NodeId) : o.Alike (o.collapseAll id).1 := by
  obtain ⟨ids, h⟩ := changeSubtree_eq o id false
  rw [collapseAll, h]
  exact alike_setOpened o ids false

theorem alike_expandLoops (o : Outline) (id : NodeId) (flag : LoopFlag) :
    o.Alike (o.expandLoops id flag).1 := by
  obtain ⟨ids, h⟩ := expandLoops_eq o id flag
  rw [h]
  exact alike_setOpened o ids true

end Outline

end LoopSurvey
