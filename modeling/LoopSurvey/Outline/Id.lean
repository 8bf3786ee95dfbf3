/-!
# Node identifiers

An identifier is any text but the empty one and `#`, which stands for the root above all top-level
nodes.
-/

namespace LoopSurvey

/-- The identifier of the root, which is no node. -/
def rootId : String := "#"

/-- The identifier of a node. -/
structure NodeId where
  text : String
  ne_empty : text ≠ ""
  ne_root : text ≠ rootId
deriving DecidableEq

/-- Why a text is no identifier. -/
inductive IdError
  | empty
  | reservedRoot
deriving DecidableEq, Repr

/-- The wording of an identifier error. -/
def IdError.message : IdError → String
  | .empty => "id must not be empty"
  | .reservedRoot => "id '#' is reserved for the tree root"

namespace NodeId

/-- The identifier with a given text. -/
def ofText (text : String) : Except IdError NodeId :=
  if h : text = "" then .error .empty
  else if h' : text = rootId then .error .reservedRoot
  else .ok ⟨text, h, h'⟩

/-- An identifier made of a letter that is not the root's and more text. -/
def ofLetter (c : Char) (rest : String) (h : c ≠ '#') : NodeId where
  text := String.ofList (c :: rest.toList)
  ne_empty := by
    intro e
    have := congrArg String.toList e
    simp at this
  ne_root := by
    intro e
    have := congrArg String.toList e
    simp [rootId] at this
    exact h this.1

@[ext] theorem ext_text {a b : NodeId} (h : a.text = b.text) : a = b := by
  cases a; cases b; simp at h; subst h; rfl

end NodeId

end LoopSurvey
