import LoopSurvey.Proofs.Outline.Markup
import LoopSurvey.Proofs.Outline.Tags
/-!
# The pieces of label markup

The markup of a label is written in pieces (`Markup.write_pieces`): tags with the texts after them. A reader finds
these pieces in it, unless the identifier of the node has a quote and stands in the markup
(`Markup.read?_ofNode_iff`).
-/

namespace LoopSurvey.Markup

/-! ## The pieces of a label -/

/-- The tag of an entry of a selector, with its value and whether it is selected. -/
def entryTag (e : String × Bool) : Tag :=
  ⟨"option", ("value", some (escape e.1)) :: if e.2 then [("selected", none)] else []⟩

/-- An entry of a selector. -/
def entryPieces (e : String × Bool) : List Piece := [⟨entryTag e, escape e.1⟩, ⟨⟨"/option", []⟩, ""⟩]

/-- The tag of a selector. -/
def selectorTag (cls id : String) : Tag := ⟨"select", [("class", some cls), ("id", some id)]⟩

/-- A selector with its entries. -/
def selectorPieces (cls id : String) (entries : List (String × Bool)) : List Piece :=
  ⟨selectorTag cls id, ""⟩ :: entries.flatMap entryPieces ++ [⟨⟨"/select", []⟩, ""⟩]

/-- The entries of a judgment selector. -/
def judgmentEntries (judgments : List String) (current : Judgment) : List (String × Bool) :=
  (offered judgments current).map fun value => (value, value = current.name)

/-- The entries of a level selector. -/
def levelEntries (e : Estimation) : List (String × Bool) :=
  (List.range e.levels).map fun level => (Nat.repr level, level = e.level)

/-- The tag of the measure of a level. -/
def measureTag (id : String) (current level : Nat) : Tag :=
  ⟨"span", ("class", some ("on_level " ++ levelName id level)) ::
    if level = current then [("style", some "display:inline;")] else []⟩

/-- The measure of a level. -/
def measurePieces (id : String) (metrics : Option Metrics) (current level : Nat) : List Piece :=
  [⟨measureTag id current level, Decimal.plain ((metrics.bind (·.factors[level]?)).getD 0)⟩, ⟨⟨"/span", []⟩, ""⟩]

/-- The text of a label. -/
def textPieces (l : Label) : List Piece :=
  [⟨⟨"span", [("class", some l.mark.cssClass)]⟩, escape l.text⟩, ⟨⟨"/span", []⟩, ""⟩]

/-- The judgment selector of a node. -/
def judgmentPieces (id : String) (judgments : List String) (current : Judgment) : List Piece :=
  selectorPieces "judgment" ("j_" ++ id) (judgmentEntries judgments current)

/-- The tag around the level selector of a node. -/
def estimationTag (e : Estimation) : Tag :=
  ⟨"span", [("class", some "estimation"), ("prev", some (Nat.repr e.level))]⟩

/-- The level selector of a node and the measures of all levels. -/
def estimationPieces (id : String) (metrics : Option Metrics) (e : Estimation) : List Piece :=
  ⟨estimationTag e, ""⟩ :: selectorPieces "level" ("e_" ++ id) (levelEntries e) ++
    (List.range e.levels).flatMap (measurePieces id metrics e.level) ++ [⟨⟨"/span", []⟩, ""⟩]

/-- The tag of the icon of a commented node. -/
def iconTag (id : String) : Tag :=
  ⟨"i", [("class", some "jstree-icon comment-icon"), ("id", some (commentIconName id)), ("role", some "presentation")]⟩

/-- The icon of a commented node. -/
def iconPieces (id : String) : List Piece := [⟨iconTag id, ""⟩, ⟨⟨"/i", []⟩, ""⟩]

/-- The pieces of a node's label, with the selectable judgments in their order. -/
def pieces (n : Node) (judgments : List String) : List Piece :=
  let id := n.id.text
  textPieces n.label ++ n.label.judgment.elim [] (judgmentPieces id judgments) ++
    n.label.estimation.elim [] (estimationPieces id n.payload.metrics) ++
    if n.label.comment.isSome then iconPieces id else []

/-! ## The markup in pieces -/

theorem write_entryPieces (e : String × Bool) : write (entryPieces e) = option e.1 e.2 := by
  have hopening : "<option value=\"" = "<" ++ "option" ++ (" " ++ "value" ++ "=\"") := by decide
  have hselected : " selected" = " " ++ "selected" := by decide
  have hclosing : "</option>" = "<" ++ "/option" ++ ">" := by decide
  unfold option
  rw [hopening, hselected, hclosing]
  obtain ⟨value, selected⟩ := e
  cases selected <;>
    simp only [entryPieces, entryTag, write_cons, write_nil, writeAttribute, List.map_cons, List.map_nil,
      String.join_cons, String.join_nil, String.append_assoc, String.append_empty, String.empty_append, if_true,
      if_false, Bool.false_eq_true]

theorem write_selectorPieces (cls id : String) (entries : List (String × Bool)) :
    write (selectorPieces cls id entries) =
      "<select class=\"" ++ cls ++ "\" id=\"" ++ id ++ "\">" ++
        String.join (entries.map fun e => option e.1 e.2) ++ "</select>" := by
  have hclass : "<select class=\"" = "<" ++ "select" ++ (" " ++ "class" ++ "=\"") := by decide
  have hid : "\" id=\"" = "\"" ++ (" " ++ "id" ++ "=\"") := by decide
  have hend : "\">" = "\"" ++ ">" := by decide
  have hclosing : "</select>" = "<" ++ "/select" ++ ">" := by decide
  rw [hclass, hid, hend, hclosing]
  simp only [selectorPieces, selectorTag, write_cons, write_nil, write_append, write_flatMap, write_entryPieces,
    writeAttribute, List.map_cons, List.map_nil, List.cons_append, String.join_cons, String.join_nil,
    String.append_assoc, String.append_empty, String.empty_append]

theorem write_measurePieces (id : String) (metrics : Option Metrics) (current level : Nat) :
    write (measurePieces id metrics current level) = levelMeasure id metrics current level := by
  have hopening : "<span class=\"on_level " = "<" ++ "span" ++ (" " ++ "class" ++ "=\"") ++ "on_level " := by decide
  have hstyle : " style=\"display:inline;\"" = " " ++ "style" ++ "=\"" ++ "display:inline;" ++ "\"" := by decide
  have hclosing : "</span>" = "<" ++ "/span" ++ ">" := by decide
  unfold levelMeasure
  rw [hopening, hstyle, hclosing]
  by_cases h : level = current <;>
    simp only [measurePieces, measureTag, h, write_cons, write_nil, writeAttribute, List.map_cons, List.map_nil,
      String.join_cons, String.join_nil, String.append_assoc, String.append_empty, String.empty_append, if_true,
      if_false]

theorem write_textPieces (l : Label) :
    write (textPieces l) = "<span class=\"" ++ l.mark.cssClass ++ "\">" ++ escape l.text ++ "</span>" := by
  have hopening : "<span class=\"" = "<" ++ "span" ++ (" " ++ "class" ++ "=\"") := by decide
  have hend : "\">" = "\"" ++ ">" := by decide
  have hclosing : "</span>" = "<" ++ "/span" ++ ">" := by decide
  rw [hopening, hend, hclosing]
  simp only [textPieces, write_cons, write_nil, writeAttribute, List.map_cons, List.map_nil,
    String.join_cons, String.join_nil, String.append_assoc, String.append_empty, String.empty_append]

theorem write_judgmentPieces (id : String) (judgments : List String) (current : Judgment) :
    write (judgmentPieces id judgments current) = judgmentSelector id judgments current := by
  have hopening : "<select class=\"judgment\" id=\"j_" = "<select class=\"" ++ "judgment" ++ "\" id=\"" ++ "j_" := by
    decide
  unfold judgmentSelector
  rw [hopening]
  simp only [judgmentPieces, write_selectorPieces, judgmentEntries, List.map_map, String.append_assoc,
    Function.comp_def]

theorem write_estimationPieces (id : String) (metrics : Option Metrics) (e : Estimation) :
    write (estimationPieces id metrics e) = estimationSelector id metrics e := by
  have hopening : "<span class=\"estimation\" prev=\"" =
      "<" ++ "span" ++ (" " ++ "class" ++ "=\"" ++ "estimation" ++ "\"") ++ (" " ++ "prev" ++ "=\"") := by decide
  have hselector : "\"><select class=\"level\" id=\"e_" =
      "\"" ++ ">" ++ ("<select class=\"" ++ "level" ++ "\" id=\"" ++ "e_") := by decide
  have hclosing : "</span>" = "<" ++ "/span" ++ ">" := by decide
  unfold estimationSelector
  rw [hopening, hselector, hclosing]
  simp only [estimationPieces, estimationTag, levelEntries, write_cons, write_nil, write_append, write_flatMap,
    write_selectorPieces, write_measurePieces, writeAttribute, List.map_cons, List.map_nil, List.map_map,
    List.cons_append, String.join_cons, String.join_nil, String.append_assoc, String.append_empty,
    String.empty_append, Function.comp_def]

theorem write_iconPieces (id : String) : write (iconPieces id) = commentIcon id := by
  have hopening : "<i class=\"jstree-icon comment-icon\" id=\"" =
      "<" ++ "i" ++ (" " ++ "class" ++ "=\"" ++ "jstree-icon comment-icon" ++ "\"") ++ (" " ++ "id" ++ "=\"") := by
    decide
  have hclosing : "\" role=\"presentation\"></i>" =
      "\"" ++ (" " ++ "role" ++ "=\"" ++ "presentation" ++ "\"") ++ ">" ++ ("<" ++ "/i" ++ ">") := by decide
  unfold commentIcon
  rw [hopening, hclosing]
  simp only [iconPieces, iconTag, write_cons, write_nil, writeAttribute, List.map_cons, List.map_nil,
    String.join_cons, String.join_nil, String.append_assoc, String.append_empty, String.empty_append]

/-- The markup of a label is what its pieces make. -/
theorem write_pieces (n : Node) (judgments : List String) : write (pieces n judgments) = ofNode n judgments := by
  unfold pieces ofNode
  rw [write_append, write_append, write_append, write_textPieces]
  congr 1
  · congr 1
    · cases n.label.judgment with
      | none => rfl
      | some current => rw [Option.elim_some, write_judgmentPieces]
    · cases n.label.estimation with
      | none => rfl
      | some e => exact write_estimationPieces _ _ e
  · split
    · exact write_iconPieces _
    · rfl

/-! ## The pieces are read -/

variable {n : Node} {judgments : List String} {p : Piece}

theorem not_mem_escape {c : Char} (h : c ∈ structural) (s : String) : c ∉ (escape s).toList :=
  List.count_eq_zero.1 (tally_escape h s)

/-- The names of the tags of a label. -/
def tagNames : List String := ["span", "/span", "select", "/select", "option", "/option", "i", "/i"]

/-- The keys of the attributes in these tags. -/
def keyNames : List String := ["class", "id", "value", "selected", "prev", "style", "role"]

theorem plain_of_names (hname : p.tag.name ∈ tagNames) (hkeys : ∀ a ∈ p.tag.attributes, a.1 ∈ keyNames)
    (hvalues : p.tag.Unquoted) (htext : '<' ∉ p.text.toList) : p.Plain := by
  have hnames : ∀ name ∈ tagNames, (name.toList.all fun c => c ∉ [' ', '>']) = true := by decide
  have hwords : ∀ key ∈ keyNames, (key.toList.all fun c => c ∉ [' ', '>', '=']) = true := by decide
  refine ⟨fun c hc => ?_, fun a ha c hc => ?_, hvalues, htext⟩
  · exact of_decide_eq_true (List.all_eq_true.1 (hnames _ hname) c hc)
  · exact of_decide_eq_true (List.all_eq_true.1 (hwords _ (hkeys a ha)) c hc)

theorem plain_closing {name : String} (h : name ∈ tagNames) : Piece.Plain ⟨⟨name, []⟩, ""⟩ :=
  plain_of_names h (List.forall_mem_nil _) (List.forall_mem_nil _) List.not_mem_nil

theorem plain_entryPieces (e : String × Bool) : ∀ p ∈ entryPieces e, p.Plain := by
  have hquote := not_mem_escape (c := '"') (by decide) e.1
  have hopening := not_mem_escape (c := '<') (by decide) e.1
  rw [entryPieces, List.forall_mem_cons, List.forall_mem_singleton]
  refine ⟨plain_of_names ?_ ?_ ?_ hopening, plain_closing (by decide)⟩ <;>
    cases e.2 <;> simp [entryTag, tagNames, keyNames, Tag.Unquoted, hquote]

theorem plain_selectorPieces {cls id : String} (hcls : '"' ∉ cls.toList) (hid : '"' ∉ id.toList)
    (entries : List (String × Bool)) : ∀ p ∈ selectorPieces cls id entries, p.Plain := by
  have hentries : ∀ p ∈ entries.flatMap entryPieces, p.Plain :=
    List.forall_mem_flatMap.2 fun e _ => plain_entryPieces e
  rw [selectorPieces, List.cons_append, List.forall_mem_cons, List.forall_mem_append, List.forall_mem_singleton]
  refine ⟨plain_of_names ?_ ?_ ?_ ?_, hentries, plain_closing (by decide)⟩ <;>
    simp [selectorTag, tagNames, keyNames, Tag.Unquoted, hcls, hid]

theorem plain_measurePieces {id : String} (hid : '"' ∉ id.toList) (metrics : Option Metrics) (current level : Nat) :
    ∀ p ∈ measurePieces id metrics current level, p.Plain := by
  have hvalue : '<' ∉ (Decimal.plain ((metrics.bind (·.factors[level]?)).getD 0)).toList :=
    List.count_eq_zero.1 (tally_plain (by decide) _)
  have hlevel := Decimal.not_mem_repr (c := '"') rfl
  rw [measurePieces, List.forall_mem_cons, List.forall_mem_singleton]
  refine ⟨plain_of_names ?_ ?_ ?_ hvalue, plain_closing (by decide)⟩ <;>
    by_cases h : level = current <;>
      simp [-Nat.toList_repr, measureTag, tagNames, keyNames, Tag.Unquoted, levelName, hid, hlevel, h]

theorem plain_textPieces (l : Label) : ∀ p ∈ textPieces l, p.Plain := by
  have hclass : '"' ∉ l.mark.cssClass.toList := List.count_eq_zero.1 (tally_cssClass (by decide) l.mark)
  rw [textPieces, List.forall_mem_cons, List.forall_mem_singleton]
  refine ⟨plain_of_names ?_ ?_ ?_ (not_mem_escape (by decide) _), plain_closing (by decide)⟩ <;>
    simp [tagNames, keyNames, Tag.Unquoted, hclass]

theorem plain_judgmentPieces {id : String} (hid : '"' ∉ id.toList) (judgments : List String) (current : Judgment) :
    ∀ p ∈ judgmentPieces id judgments current, p.Plain :=
  plain_selectorPieces (by decide) (by simp [hid]) _

theorem plain_estimationPieces {id : String} (hid : '"' ∉ id.toList) (metrics : Option Metrics) (e : Estimation) :
    ∀ p ∈ estimationPieces id metrics e, p.Plain := by
  have hlevel := Decimal.not_mem_repr (c := '"') rfl
  have hselector : ∀ p ∈ selectorPieces "level" ("e_" ++ id) (levelEntries e), p.Plain :=
    plain_selectorPieces (by decide) (by simp [hid]) _
  have hmeasures : ∀ p ∈ (List.range e.levels).flatMap (measurePieces id metrics e.level), p.Plain :=
    List.forall_mem_flatMap.2 fun level _ => plain_measurePieces hid metrics e.level level
  rw [estimationPieces, List.forall_mem_append, List.forall_mem_append, List.forall_mem_cons,
    List.forall_mem_singleton]
  refine ⟨⟨⟨plain_of_names ?_ ?_ ?_ ?_, hselector⟩, hmeasures⟩, plain_closing (by decide)⟩ <;>
    simp [-Nat.toList_repr, estimationTag, tagNames, keyNames, Tag.Unquoted, hlevel]

theorem plain_iconPieces {id : String} (hid : '"' ∉ id.toList) : ∀ p ∈ iconPieces id, p.Plain := by
  rw [iconPieces, List.forall_mem_cons, List.forall_mem_singleton]
  refine ⟨plain_of_names ?_ ?_ ?_ ?_, plain_closing (by decide)⟩ <;>
    simp [iconTag, tagNames, keyNames, Tag.Unquoted, commentIconName, hid]

/-- What holds of the pieces of whatever there may be, holds of its pieces. -/
theorem forall_mem_elim {o : Option α} {f : α → List Piece} {P : Piece → Prop} (h : ∀ a, ∀ p ∈ f a, P p) :
    ∀ p ∈ o.elim [] f, P p := by
  cases o with
  | none => exact List.forall_mem_nil _
  | some a => exact h a

/-- The pieces of a label are plain if its identifier has no quote or stands nowhere. -/
theorem plain_pieces (hid : '"' ∉ n.id.text.toList ∨ (shapeOf n judgments).places = 0) :
    ∀ p ∈ pieces n judgments, p.Plain := by
  unfold pieces
  rw [List.forall_mem_append, List.forall_mem_append, List.forall_mem_append]
  have hnone : (shapeOf n judgments).places = 0 →
      n.label.judgment = none ∧ n.label.estimation = none ∧ n.label.comment.isSome = false := by
    unfold Shape.places shapeOf
    cases n.label.judgment <;> cases n.label.estimation <;> cases n.label.comment <;> simp
  rcases hid with hid | hplaces
  · refine ⟨⟨⟨plain_textPieces _, forall_mem_elim (plain_judgmentPieces hid judgments)⟩,
      forall_mem_elim (plain_estimationPieces hid n.payload.metrics)⟩, ?_⟩
    split
    · exact plain_iconPieces hid
    · exact List.forall_mem_nil _
  · obtain ⟨hjudgment, hestimation, hcomment⟩ := hnone hplaces
    rw [hjudgment, hestimation, hcomment]
    exact ⟨⟨⟨plain_textPieces _, List.forall_mem_nil _⟩, List.forall_mem_nil _⟩, List.forall_mem_nil _⟩

/-- Where the identifier stands in the markup, it is in a value. -/
theorem exists_value_of_places (h : (shapeOf n judgments).places ≠ 0) : ∃ p ∈ pieces n judgments,
    ∃ a ∈ p.tag.attributes, ∃ before : String, a.2 = some (before ++ n.id.text) := by
  cases hjudgment : n.label.judgment with
  | some current =>
    refine ⟨⟨selectorTag "judgment" ("j_" ++ n.id.text), ""⟩, ?_, ("id", _), by simp [selectorTag], "j_", rfl⟩
    simp [pieces, hjudgment, judgmentPieces, selectorPieces]
  | none =>
    cases hestimation : n.label.estimation with
    | some e =>
      refine ⟨⟨selectorTag "level" ("e_" ++ n.id.text), ""⟩, ?_, ("id", _), by simp [selectorTag], "e_", rfl⟩
      simp [pieces, hestimation, estimationPieces, selectorPieces]
    | none =>
      cases hcomment : n.label.comment with
      | some comment =>
        refine ⟨⟨iconTag n.id.text, ""⟩, ?_, ("id", _), by simp [iconTag, commentIconName], "c_", rfl⟩
        simp [pieces, hcomment, iconPieces]
      | none => exact absurd (by simp [Shape.places, shapeOf, hjudgment, hestimation, hcomment]) h

/-- A reader finds the pieces in the markup, unless the identifier has a quote and stands there. -/
theorem read?_ofNode_iff : read? (ofNode n judgments) = some (pieces n judgments) ↔
    '"' ∉ n.id.text.toList ∨ (shapeOf n judgments).places = 0 := by
  constructor
  · intro hread
    by_contra hor
    obtain ⟨hquote, hplaces⟩ := not_or.1 hor
    obtain ⟨p, hp, a, ha, before, hvalue⟩ := exists_value_of_places hplaces
    refine unquoted_of_read? hread p hp a ha _ hvalue ?_
    rw [String.toList_append, List.mem_append]
    exact Or.inr (Decidable.not_not.1 hquote)
  · intro h
    rw [← write_pieces]
    exact read?_write (plain_pieces h)

end LoopSurvey.Markup
