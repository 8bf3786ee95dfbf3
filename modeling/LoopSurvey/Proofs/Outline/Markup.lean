import LoopSurvey.Outline.Markup
import LoopSurvey.Proofs.Decimal.Digits
import Mathlib.Algebra.BigOperators.Group.List.Basic
import Mathlib.Tactic.Ring
/-!
# What the tags of label markup come from

Tags are made of angle brackets and quotes. An escaped text has none of them (`tally_escape`), so their number in the
markup of a label follows from its elements and attributes, which the shape of the label tells, and from the
identifier of the node, which stands in it as it is (`tally_ofNode`).
-/

namespace LoopSurvey.Markup

/-- How often a character is in a text. -/
def tally (c : Char) (s : String) : Nat := s.toList.count c

/-- The characters that tags are made of. -/
def structural : List Char := ['<', '>', '"']

/-- How often a structural character is in the tags of some elements, which open and close, with some attributes. -/
def marks (c : Char) (elements attributes : Nat) : Nat :=
  if c = '"' then 2 * attributes else 2 * elements

variable {c : Char}

theorem structural_cases (h : c ∈ structural) : c = '<' ∨ c = '>' ∨ c = '"' := by
  simpa [structural] using h

theorem structural_not_digit (h : c ∈ structural) : c.isDigit = false := by
  rcases structural_cases h with rfl | rfl | rfl <;> rfl

theorem marks_add (elements elements' attributes attributes' : Nat) :
    marks c (elements + elements') (attributes + attributes') =
      marks c elements attributes + marks c elements' attributes' := by
  unfold marks
  split <;> omega

theorem marks_zero : marks c 0 0 = 0 := by
  unfold marks
  split <;> rfl

/-- The marks of some copies of a template. -/
theorem mul_marks (n elements attributes : Nat) :
    n * marks c elements attributes = marks c (n * elements) (n * attributes) := by
  unfold marks
  split <;> exact Nat.mul_left_comm n 2 _

theorem tally_append (s t : String) : tally c (s ++ t) = tally c s + tally c t := by
  rw [tally, String.toList_append, List.count_append]
  rfl

theorem tally_eq_zero {s : String} (h : c ∉ s.toList) : tally c s = 0 := List.count_eq_zero.2 h

theorem tally_join (l : List String) : tally c (String.join l) = (l.map (tally c)).sum := by
  rw [tally, String.toList_join, List.count_flatMap]
  rfl

/-! ## Texts in markup -/

theorem not_mem_escapeChar (h : c ∈ structural) (d : Char) : c ∉ escapeChar d := by
  unfold escapeChar
  split
  · rcases structural_cases h with rfl | rfl | rfl <;> decide
  · rcases structural_cases h with rfl | rfl | rfl <;> decide
  · rcases structural_cases h with rfl | rfl | rfl <;> decide
  · rcases structural_cases h with rfl | rfl | rfl <;> decide
  · next d _ hlt hgt hquote =>
    -- any other character stands for itself
    rw [List.mem_singleton]
    rintro rfl
    rcases structural_cases h with rfl | rfl | rfl
    · exact hlt rfl
    · exact hgt rfl
    · exact hquote rfl

/-- An escaped text has no structural characters. -/
theorem tally_escape (h : c ∈ structural) (s : String) : tally c (escape s) = 0 := by
  apply tally_eq_zero
  rw [escape, String.toList_ofList, List.mem_flatMap]
  rintro ⟨d, -, hd⟩
  exact not_mem_escapeChar h d hd

theorem tally_repr (h : c ∈ structural) (n : Nat) : tally c (Nat.repr n) = 0 :=
  tally_eq_zero (Decimal.not_mem_repr (structural_not_digit h) n)

theorem tally_plain (h : c ∈ structural) (x : Float) : tally c (Decimal.plain x) = 0 := by
  apply tally_eq_zero
  intro hmem
  rcases Decimal.mem_plain hmem with hdigit | hother
  · exact Bool.false_ne_true ((structural_not_digit h).symm.trans hdigit)
  · rcases structural_cases h with rfl | rfl | rfl <;> revert hother <;> decide

theorem tally_cssClass (h : c ∈ structural) (m : Mark) : tally c m.cssClass = 0 := by
  rcases structural_cases h with rfl | rfl | rfl <;> cases m <;> rfl

/-! ## Parts of the markup -/

/-- An entry of a selector is an element with one attribute. -/
theorem tally_option (h : c ∈ structural) (value : String) (selected : Bool) :
    tally c (option value selected) = marks c 1 1 := by
  unfold option
  simp only [tally_append, tally_escape h]
  rcases structural_cases h with rfl | rfl | rfl <;> cases selected <;> rfl

theorem tally_options (h : c ∈ structural) (l : List α) (value : α → String) (selected : α → Bool) :
    tally c (String.join (l.map fun a => option (value a) (selected a))) = l.length * marks c 1 1 := by
  rw [tally_join, List.map_map]
  simp only [Function.comp_def, tally_option h, List.map_const', List.sum_replicate_nat]

theorem tally_judgmentSelector (h : c ∈ structural) (id : String) (judgments : List String) (current : Judgment) :
    tally c (judgmentSelector id judgments current) =
      marks c (1 + (offered judgments current).length) (2 + (offered judgments current).length) + tally c id := by
  -- what the template itself brings, apart from what is put into it
  have htags : tally c "<select class=\"judgment\" id=\"j_" + tally c "\">" + tally c "</select>" =
      marks c 1 2 := by
    rcases structural_cases h with rfl | rfl | rfl <;> rfl
  unfold judgmentSelector
  simp only [tally_append, tally_options h, mul_marks, Nat.mul_one]
  rw [marks_add]
  omega

/-- The measure of a level is an element with one attribute, and with one more for the chosen level. -/
theorem tally_levelMeasure (h : c ∈ structural) (id : String) (metrics : Option Metrics) (current level : Nat) :
    tally c (levelMeasure id metrics current level) =
      marks c 1 1 + tally c id + if level = current then marks c 0 1 else 0 := by
  have htags : tally c "<span class=\"on_level " + tally c "lv" + tally c "\"" + tally c ">" +
      tally c "</span>" = marks c 1 1 := by
    rcases structural_cases h with rfl | rfl | rfl <;> rfl
  have hstyle : tally c " style=\"display:inline;\"" = marks c 0 1 := by
    rcases structural_cases h with rfl | rfl | rfl <;> rfl
  have hempty : tally c "" = 0 := rfl
  unfold levelMeasure levelName
  simp only [tally_append, tally_repr h, tally_plain h]
  split <;> omega

/-- Of the levels below a bound, one is the chosen one if that is below the bound. -/
theorem sum_range_chosen (each extra current n : Nat) :
    ((List.range n).map fun level => each + if level = current then extra else 0).sum =
      n * each + if current < n then extra else 0 := by
  induction n with
  | zero => simp
  | succ n ih =>
    rw [List.sum_range_succ, ih, Nat.succ_mul]
    by_cases hn : n = current
    · simp [hn, Nat.add_assoc]
    · have hlt : current < n + 1 ↔ current < n := by omega
      simp only [hn, hlt, if_false]
      omega

theorem tally_estimationSelector (h : c ∈ structural) (id : String) (metrics : Option Metrics) (e : Estimation) :
    tally c (estimationSelector id metrics e) =
      marks c (2 + 2 * e.levels) (5 + 2 * e.levels) + (1 + e.levels) * tally c id := by
  have htags : tally c "<span class=\"estimation\" prev=\"" +
      tally c "\"><select class=\"level\" id=\"e_" + tally c "\">" + tally c "</select>" + tally c "</span>" =
      marks c 2 4 := by
    rcases structural_cases h with rfl | rfl | rfl <;> rfl
  have hmeasures : tally c (String.join ((List.range e.levels).map (levelMeasure id metrics e.level))) =
      e.levels * (marks c 1 1 + tally c id) + marks c 0 1 := by
    rw [tally_join, List.map_map]
    simp only [Function.comp_def, tally_levelMeasure h]
    rw [sum_range_chosen, if_pos e.level_lt]
  have hmarks : marks c (2 + 2 * e.levels) (5 + 2 * e.levels) =
      marks c 2 4 + marks c 0 1 + 2 * e.levels * marks c 1 1 := by
    rw [mul_marks, ← marks_add, ← marks_add, Nat.mul_one]
  unfold estimationSelector
  simp only [tally_append, tally_repr h, tally_options h, hmeasures, List.length_range]
  rw [hmarks, ← htags]
  ring

theorem tally_commentIcon (h : c ∈ structural) (id : String) :
    tally c (commentIcon id) = marks c 1 3 + tally c id := by
  have htags : tally c "<i class=\"jstree-icon comment-icon\" id=\"" + tally c "c_" +
      tally c "\" role=\"presentation\"></i>" = marks c 1 3 := by
    rcases structural_cases h with rfl | rfl | rfl <;> rfl
  unfold commentIcon commentIconName
  simp only [tally_append]
  omega

/-! ## The markup of a label -/

/-- What there is in a label to be shown, whatever the texts are. -/
structure Shape where
  /-- How many judgments there are to select from, if there is a selector. -/
  options : Option Nat
  /-- How many levels there are to select from, if there is a selector. -/
  levels : Option Nat
  commented : Bool
deriving DecidableEq

/-- The shape of a node's label with some selectable judgments. -/
def shapeOf (n : Node) (judgments : List String) : Shape where
  options := n.label.judgment.map fun current => (offered judgments current).length
  levels := n.label.estimation.map (·.levels)
  commented := n.label.comment.isSome

/-- The elements of a label's markup: the text, each selector with its entries, the measures and the icon. -/
def Shape.elements (s : Shape) : Nat :=
  1 + s.options.elim 0 (1 + ·) + s.levels.elim 0 (2 + 2 * ·) + if s.commented then 1 else 0

/-- The attributes of a label's markup. -/
def Shape.attributes (s : Shape) : Nat :=
  1 + s.options.elim 0 (2 + ·) + s.levels.elim 0 (5 + 2 * ·) + if s.commented then 3 else 0

/-- How often the identifier of the node stands in the markup of its label. -/
def Shape.places (s : Shape) : Nat :=
  s.options.elim 0 (fun _ => 1) + s.levels.elim 0 (1 + ·) + if s.commented then 1 else 0

theorem tally_ofNode_of_structural (h : c ∈ structural) (n : Node) (judgments : List String) :
    tally c (ofNode n judgments) =
      marks c (shapeOf n judgments).elements (shapeOf n judgments).attributes +
        (shapeOf n judgments).places * tally c n.id.text := by
  have hempty : tally c "" = 0 := rfl
  have htext : tally c ("<span class=\"" ++ n.label.mark.cssClass ++ "\">" ++ escape n.label.text ++ "</span>") =
      marks c 1 1 := by
    simp only [tally_append, tally_cssClass h, tally_escape h]
    rcases structural_cases h with rfl | rfl | rfl <;> rfl
  unfold ofNode Shape.elements Shape.attributes Shape.places shapeOf
  rw [tally_append, tally_append, tally_append, htext, marks_add, marks_add, marks_add]
  -- each part is in the label, with its marks and its places, or it is not
  cases n.label.judgment <;> cases n.label.estimation <;> cases n.label.comment <;>
    simp only [Option.map_some, Option.map_none, Option.elim_some, Option.elim_none, Option.isSome_some,
      Option.isSome_none, Bool.false_eq_true, if_true, if_false, tally_judgmentSelector h,
      tally_estimationSelector h, tally_commentIcon h, hempty, marks_zero] <;> ring

/-- **What the tags of a label's markup come from.** Their angle brackets are two of each kind for every element, and
their quotes two for every attribute, as the shape of the label tells; the text, the judgments, the measures and the
comment of the node add none. The identifier stands unescaped in some places, and adds its own. -/
theorem tally_ofNode (n : Node) (judgments : List String) :
    tally '<' (ofNode n judgments) =
        2 * (shapeOf n judgments).elements + (shapeOf n judgments).places * tally '<' n.id.text ∧
      tally '>' (ofNode n judgments) =
        2 * (shapeOf n judgments).elements + (shapeOf n judgments).places * tally '>' n.id.text ∧
      tally '"' (ofNode n judgments) =
        2 * (shapeOf n judgments).attributes + (shapeOf n judgments).places * tally '"' n.id.text :=
  ⟨tally_ofNode_of_structural (by decide) n judgments, tally_ofNode_of_structural (by decide) n judgments,
    tally_ofNode_of_structural (by decide) n judgments⟩

/-- Two labels of one shape, and an identifier that brings a tag of its own. -/
theorem tally_ofNode_tag_in_identifier :
    let label : Label := { judgment := some .notYet }
    let plain : Node := { id := ⟨"b", by decide, by decide⟩, label }
    let tagged : Node := { id := ⟨"\"><b>", by decide, by decide⟩, label }
    shapeOf plain ["NotYet"] = shapeOf tagged ["NotYet"] ∧
    tally '<' (ofNode plain ["NotYet"]) = 6 ∧ tally '<' (ofNode tagged ["NotYet"]) = 7 ∧
    tally '>' (ofNode plain ["NotYet"]) = 6 ∧ tally '>' (ofNode tagged ["NotYet"]) = 8 ∧
    tally '"' (ofNode plain ["NotYet"]) = 8 ∧ tally '"' (ofNode tagged ["NotYet"]) = 9 := by
  have hopening : '<' ∈ structural := by decide
  have hclosing : '>' ∈ structural := by decide
  have hquote : '"' ∈ structural := by decide
  simp only [tally_ofNode_of_structural hopening, tally_ofNode_of_structural hclosing,
    tally_ofNode_of_structural hquote]
  decide

end LoopSurvey.Markup
