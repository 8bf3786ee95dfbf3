/-!
# Keys

The keys the viewer knows. Panes have the keys that move in common; the outline has a command for
each of the others it uses.
-/

namespace LoopSurvey

/-- A key. -/
inductive Key
  | enter | escape | tab | backspace
  | up | down | left | right
  | pageUp | pageDown | home | toEnd
  | char (c : Char)
  /-- Any other key, which no pane has a use for. -/
  | other (code : Nat)
deriving DecidableEq, Repr

/-- The names of the keys that type no character. -/
def Key.names : List (String × Key) :=
  [("Enter", enter), ("Esc", escape), ("Tab", tab), ("Backspace", backspace), ("Up", up),
    ("Down", down), ("Left", left), ("Right", right), ("PageUp", pageUp), ("PageDown", pageDown),
    ("Home", home), ("End", toEnd)]

/-- The key with a name. -/
def Key.ofName? (name : String) : Option Key := names.lookup name

/-- A move in a pane. -/
inductive Motion
  | down | up | pageDown | pageUp | first | last
deriving DecidableEq, Repr

/-- The move a key makes in every pane. -/
def Key.motion? : Key → Option Motion
  | down => some .down
  | up => some .up
  | pageDown => some .pageDown
  | pageUp => some .pageUp
  | home => some .first
  | toEnd => some .last
  | char c => if c = 'j' then some .down else if c = 'k' then some .up else none
  | _ => none

/-- The rows a page moves by in a pane that shows `height` rows. -/
def page (height : Nat) : Nat := min (max height 1) 32767

end LoopSurvey
