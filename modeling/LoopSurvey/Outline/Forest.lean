/-!
# Forests

Ordered forests: each node has a forest of children, and the trees of a forest follow each other.
The pre-order of a forest lists a node before its descendants and these before the next tree. A
place is a node together with its ancestors and the forest below it.
-/

namespace LoopSurvey

/-- An ordered forest: the first tree's root, the forest below it, and the trees after it. -/
inductive Forest (α : Type u)
  | nil
  | cons (root : α) (children rest : Forest α)

/-- A node of a forest: its ancestors, nearest first, and what is below it. -/
structure Place (α : Type u) where
  node : α
  above : List α
  below : Forest α

namespace Forest

/-- The roots of the trees. -/
def roots : Forest α → List α
  | nil => []
  | cons a _ rest => a :: rest.roots

/-- All nodes in pre-order. -/
def preorder : Forest α → List α
  | nil => []
  | cons a children rest => a :: (children.preorder ++ rest.preorder)

/-- The number of nodes. -/
def size : Forest α → Nat
  | nil => 0
  | cons _ children rest => 1 + children.size + rest.size

/-- Changes every node and keeps the shape. -/
def map (f : α → β) : Forest α → Forest β
  | nil => nil
  | cons a children rest => cons (f a) (children.map f) (rest.map f)

/-- Whether some node has a property. -/
def any (p : α → Bool) : Forest α → Bool
  | nil => false
  | cons a children rest => p a || children.any p || rest.any p

/-- The places of the nodes in pre-order, for a forest that hangs below `above`. -/
def placesBelow (above : List α) : Forest α → List (Place α)
  | nil => []
  | cons a children rest =>
    ⟨a, above, children⟩ :: (placesBelow (a :: above) children ++ placesBelow above rest)

/-- The places of the nodes in pre-order. -/
def places (f : Forest α) : List (Place α) := placesBelow [] f

/-- The first place, in pre-order, whose node has a property. -/
def findBelow? (p : α → Bool) (above : List α) : Forest α → Option (Place α)
  | nil => none
  | cons a children rest =>
    if p a then some ⟨a, above, children⟩
    else (findBelow? p (a :: above) children).or (findBelow? p above rest)

/-- The first place, in pre-order, whose node has a property. -/
def find? (p : α → Bool) (f : Forest α) : Option (Place α) := findBelow? p [] f

/-- Adds a tree without children after the trees of a forest. -/
def push (a : α) : Forest α → Forest α
  | nil => cons a nil nil
  | cons b children rest => cons b children (rest.push a)

/-- Adds a node as the last child of the first node with a property; none if there is no such node. -/
def pushBelow? (p : α → Bool) (a : α) : Forest α → Option (Forest α)
  | nil => none
  | cons b children rest =>
    if p b then some (cons b (children.push a) rest)
    else match children.pushBelow? p a with
      | some children => some (cons b children rest)
      | none => (rest.pushBelow? p a).map (cons b children)

@[simp] theorem preorder_map (f : α → β) (t : Forest α) :
    (t.map f).preorder = t.preorder.map f := by
  induction t with
  | nil => rfl
  | cons a children rest ihc ihr => simp [map, preorder, ihc, ihr]

theorem length_preorder (t : Forest α) : t.preorder.length = t.size := by
  induction t with
  | nil => rfl
  | cons a children rest ihc ihr => simp [preorder, size, ihc, ihr]; omega

theorem preorder_push (a : α) (t : Forest α) : (t.push a).preorder = t.preorder ++ [a] := by
  induction t with
  | nil => rfl
  | cons b children rest _ ihr => simp [push, preorder, ihr]

/-- Adding a node below another one adds it to the nodes, and changes nothing else about them. -/
theorem perm_pushBelow? {p : α → Bool} {a : α} {t t' : Forest α} (h : t.pushBelow? p a = some t') :
    t'.preorder.Perm (a :: t.preorder) := by
  induction t generalizing t' with
  | nil => cases h
  | cons b children rest ihc ihr =>
    simp only [pushBelow?] at h
    split at h
    · cases h
      simp only [preorder, preorder_push, List.append_assoc, List.singleton_append]
      exact (List.Perm.cons b List.perm_middle).trans (.swap a b _)
    · split at h
      · next children' hc =>
        cases h
        exact (((ihc hc).append_right _).cons b).trans (.swap a b _)
      · obtain ⟨rest', hr, rfl⟩ := Option.map_eq_some_iff.1 h
        refine (List.Perm.cons b ?_).trans (.swap a b _)
        exact ((ihr hr).append_left _).trans List.perm_middle

theorem findBelow?_eq (p : α → Bool) (above : List α) (t : Forest α) :
    t.findBelow? p above = (t.placesBelow above).find? fun q => p q.node := by
  induction t generalizing above with
  | nil => rfl
  | cons a children rest ihc ihr =>
    by_cases h : p a <;> simp [findBelow?, placesBelow, List.find?_append, ihc, ihr, h]

theorem map_node_placesBelow (above : List α) (t : Forest α) :
    (t.placesBelow above).map Place.node = t.preorder := by
  induction t generalizing above with
  | nil => rfl
  | cons a children rest ihc ihr => simp [placesBelow, preorder, ihc, ihr]

end Forest

end LoopSurvey
