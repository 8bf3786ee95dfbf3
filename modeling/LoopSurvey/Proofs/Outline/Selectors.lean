import LoopSurvey.Proofs.Outline.Pieces
import Mathlib.Data.List.Nodup
/-!
# Selectors in label markup

The pieces of a label say which values can be selected and which one is (`Offers`), of which levels there are measures
and which one is shown (`Measures`), and whether there is a comment (`Markup.selectors_ofNode`). This is what a reader
finds in the markup, as long as the identifier of the node brings no tags of its own.
-/

namespace LoopSurvey.Markup

variable {n : Node} {judgments : List String}

/-! ## What the pieces say -/

/-- The value of an attribute. -/
def Tag.value? (t : Tag) (key : String) : Option String := (t.attributes.lookup key).join

/-- Whether a tag opens an element with a class. -/
def Tag.opens (name cls : String) (t : Tag) : Bool :=
  t.name = name && (((t.value? "class").getD "").toList.splitOn ' ').contains cls.toList

/-- The elements with a name and a class. -/
def elements (name cls : String) (ps : List Piece) : List Tag := (ps.map Piece.tag).filter (Tag.opens name cls)

/-- What stands in the first selector of a class. -/
def within (cls : String) (ps : List Piece) : List Piece :=
  ((ps.dropWhile fun p => !p.tag.opens "select" cls).drop 1).takeWhile fun p => p.tag.name ≠ "/select"

/-- The entries among some pieces. -/
def entriesOf (ps : List Piece) : List Tag := (ps.map Piece.tag).filter (·.name = "option")

/-- The value that an entry stands for. -/
def Tag.entryValue? (t : Tag) : Option String := (t.value? "value").map unescape

/-- Whether an entry is selected. -/
def Tag.selected (t : Tag) : Bool := t.attributes.any (·.1 = "selected")

/-- The levels to go back to. -/
def previous (ps : List Piece) : List String := (ps.map Piece.tag).filterMap (·.value? "prev")

/-- There is one selector of a class, which has an entry for each of some values, and one of them is selected. -/
structure Offers (ps : List Piece) (cls : String) (values : List String) (chosen : String) : Prop where
  once : (elements "select" cls ps).length = 1
  values : (entriesOf (within cls ps)).map Tag.entryValue? = values.map some
  selected : ((entriesOf (within cls ps)).filter Tag.selected).map Tag.entryValue? = [some chosen]

/-- There is a measure for each level, of which one is shown, and its level is the one to go back to. -/
structure Measures (ps : List Piece) (id : String) (e : Estimation) : Prop where
  spans : (elements "span" "on_level" ps).map (·.value? "class") =
    (List.range e.levels).map fun level => some ("on_level " ++ levelName id level)
  inline : ((elements "span" "on_level" ps).filter (·.value? "style" = some "display:inline;")).map (·.value? "class") =
    [some ("on_level " ++ levelName id e.level)]
  previous : previous ps = [Nat.repr e.level]

theorem elements_append (name cls : String) (ps qs : List Piece) :
    elements name cls (ps ++ qs) = elements name cls ps ++ elements name cls qs := by
  rw [elements, List.map_append, List.filter_append]
  rfl

theorem elements_eq_nil {name cls : String} {ps : List Piece} (h : ∀ p ∈ ps, p.tag.opens name cls = false) :
    elements name cls ps = [] := by
  rw [elements, List.filter_eq_nil_iff, List.forall_mem_map]
  exact fun p hp => Bool.not_eq_true _ ▸ h p hp

theorem opens_of_name_ne {name cls : String} {t : Tag} (h : t.name ≠ name) : t.opens name cls = false := by
  rw [Tag.opens, decide_eq_false h, Bool.false_and]

theorem entryValue?_entryTag (e : String × Bool) : (entryTag e).entryValue? = some e.1 := by
  have hvalue : (entryTag e).value? "value" = some (escape e.1) := rfl
  rw [Tag.entryValue?, hvalue, Option.map_some, unescape_escape]

theorem selected_entryTag (e : String × Bool) : (entryTag e).selected = e.2 := by
  obtain ⟨value, selected⟩ := e
  cases selected <;> rfl

theorem entriesOf_entryPieces (entries : List (String × Bool)) :
    entriesOf (entries.flatMap entryPieces) = entries.map entryTag := by
  induction entries with
  | nil => rfl
  | cons e entries ih =>
    rw [List.flatMap_cons, entriesOf, List.map_append, List.filter_append, List.map_cons, ← ih]
    rfl

/-- The entries of a selector stand for the values that they were written for. -/
theorem entryValue?_entryPieces (entries : List (String × Bool)) :
    (entriesOf (entries.flatMap entryPieces)).map Tag.entryValue? = entries.map fun e => some e.1 := by
  rw [entriesOf_entryPieces, List.map_map]
  exact List.map_congr_left fun e _ => entryValue?_entryTag e

theorem name_mem_entryPieces (entries : List (String × Bool)) :
    ∀ p ∈ entries.flatMap entryPieces, p.tag.name ∈ ["option", "/option"] := by
  refine List.forall_mem_flatMap.2 fun e _ => ?_
  rw [entryPieces, List.forall_mem_cons, List.forall_mem_singleton]
  exact ⟨List.mem_cons_self, List.mem_cons_of_mem _ List.mem_cons_self⟩

/-- What the entries of a selector offer, wherever it stands among other pieces. -/
theorem offers_selectorPieces {cls chosen : String} (id : String) {entries : List (String × Bool)}
    {before after : List Piece} (hcls : (cls.toList.splitOn ' ').contains cls.toList)
    (hbefore : ∀ p ∈ before, p.tag.opens "select" cls = false)
    (hafter : ∀ p ∈ after, p.tag.opens "select" cls = false)
    (hchosen : entries.filter (·.2) = [(chosen, true)]) :
    Offers (before ++ selectorPieces cls id entries ++ after) cls (entries.map Prod.fst) chosen := by
  have hopens : (selectorTag cls id).opens "select" cls = true := hcls
  have hentry : ∀ p ∈ entries.flatMap entryPieces, p.tag.name ≠ "/select" ∧ p.tag.opens "select" cls = false := by
    intro p hp
    have hname := name_mem_entryPieces entries p hp
    refine ⟨fun h => ?_, opens_of_name_ne fun h => ?_⟩ <;> (rw [h] at hname; revert hname; decide)
  have hwithin : within cls (before ++ selectorPieces cls id entries ++ after) = entries.flatMap entryPieces := by
    rw [within, List.append_assoc, List.dropWhile_append_of_pos fun p hp => by simp [hbefore p hp], selectorPieces,
      List.cons_append, List.cons_append, List.dropWhile_cons_of_neg (by simp [hopens]), List.drop_one, List.tail_cons,
      List.append_assoc, List.takeWhile_append_of_pos fun p hp => decide_eq_true (hentry p hp).1, List.cons_append,
      List.takeWhile_cons_of_neg (by simp), List.append_nil]
  have hclosing : elements "select" cls [⟨⟨"/select", []⟩, ""⟩] = [] :=
    elements_eq_nil (List.forall_mem_singleton.2 (opens_of_name_ne (by simp)))
  refine ⟨?once, ?values, ?selected⟩
  case once =>
    rw [elements_append, elements_append, elements_eq_nil hbefore, elements_eq_nil hafter, selectorPieces,
      elements_append, hclosing, elements, List.map_cons, List.filter_cons_of_pos hopens, ← elements,
      elements_eq_nil fun p hp => (hentry p hp).2]
    rfl
  case values =>
    rw [hwithin, entryValue?_entryPieces, List.map_map]
    rfl
  case selected =>
    rw [hwithin, entriesOf_entryPieces, List.filter_map, Function.comp_def, funext selected_entryTag, hchosen,
      List.map_singleton, List.map_singleton, entryValue?_entryTag]

/-! ## Which pieces open what -/

/-- The kinds of elements that a label has besides its text, by name and class. -/
def kinds : List (String × String) :=
  [("select", "judgment"), ("select", "level"), ("span", "on_level"), ("i", "comment-icon")]

variable {kind : String × String}

/-- A tag with another name opens no element of a kind. -/
theorem opens_of_otherName {t : Tag} (ht : t.name ∈ ["option", "/option", "/select", "/span", "/i"])
    (h : kind ∈ kinds) : t.opens kind.1 kind.2 = false := by
  refine opens_of_name_ne fun hname => ?_
  exact (by decide : ∀ kind ∈ kinds, kind.1 ∉ ["option", "/option", "/select", "/span", "/i"]) kind h (hname ▸ ht)

theorem opens_textPieces (h : kind ∈ kinds) (l : Label) : ∀ p ∈ textPieces l, p.tag.opens kind.1 kind.2 = false := by
  have hmark : ∀ kind ∈ kinds, ∀ m ∈ [Mark.plain, .target, .targetCompleted],
      Tag.opens kind.1 kind.2 ⟨"span", [("class", some m.cssClass)]⟩ = false := by decide
  rw [textPieces, List.forall_mem_cons, List.forall_mem_singleton]
  exact ⟨hmark kind h l.mark (by cases l.mark <;> simp), opens_of_otherName (by simp) h⟩

theorem opens_selectorPieces {cls : String} (hcls : cls ∈ ["judgment", "level"]) (h : kind ∈ kinds)
    (hne : kind ≠ ("select", cls)) (id : String) (entries : List (String × Bool)) :
    ∀ p ∈ selectorPieces cls id entries, p.tag.opens kind.1 kind.2 = false := by
  -- the class alone decides, whatever the identifier is
  have hselector : ∀ kind ∈ kinds, ∀ cls ∈ ["judgment", "level"], kind ≠ ("select", cls) →
      Tag.opens kind.1 kind.2 ⟨"select", [("class", some cls)]⟩ = false := by decide
  have hentries : ∀ p ∈ entries.flatMap entryPieces, p.tag.opens kind.1 kind.2 = false := fun p hp =>
    opens_of_otherName ((by decide : ["option", "/option"] ⊆ _) (name_mem_entryPieces entries p hp)) h
  rw [selectorPieces, List.cons_append, List.forall_mem_cons, List.forall_mem_append, List.forall_mem_singleton]
  exact ⟨hselector kind h cls hcls hne, hentries, opens_of_otherName (by simp) h⟩

theorem opens_measurePieces (h : kind ∈ kinds) (hne : kind ≠ ("span", "on_level")) (id : String)
    (metrics : Option Metrics) (current : Nat) (levels : List Nat) :
    ∀ p ∈ levels.flatMap (measurePieces id metrics current), p.tag.opens kind.1 kind.2 = false := by
  have hspan : ∀ kind ∈ kinds, kind ≠ ("span", "on_level") → "span" ≠ kind.1 := by decide
  refine List.forall_mem_flatMap.2 fun level _ => ?_
  rw [measurePieces, List.forall_mem_cons, List.forall_mem_singleton]
  exact ⟨opens_of_name_ne (hspan kind h hne), opens_of_otherName (by simp) h⟩

theorem opens_measureTag (id : String) (current level : Nat) :
    (measureTag id current level).opens "span" "on_level" := by
  have hclass : ("on_level " ++ levelName id level).toList =
      "on_level".toList ++ ' ' :: (levelName id level).toList := by
    rw [String.toList_append]
    rfl
  have hword : ∀ c ∈ "on_level".toList, (c == ' ') = false := fun c hc =>
    beq_eq_false_iff_ne.2 fun hblank => (by decide : ' ' ∉ "on_level".toList) (hblank ▸ hc)
  have hsplit : ("on_level " ++ levelName id level).toList.splitOn ' ' =
      "on_level".toList :: (levelName id level).toList.splitOn ' ' := by
    rw [hclass]
    exact List.splitOnP_append_cons_of_forall_mem hword ' ' rfl _
  have hvalue : (measureTag id current level).value? "class" = some ("on_level " ++ levelName id level) := rfl
  rw [Tag.opens, hvalue, Option.getD_some, hsplit, List.contains_cons]
  rfl

theorem value?_style_measureTag (id : String) (current level : Nat) :
    (measureTag id current level).value? "style" = if level = current then some "display:inline;" else none := by
  unfold measureTag
  split <;> rfl

/-- The measures are the elements with the class of levels. -/
theorem elements_measurePieces (id : String) (metrics : Option Metrics) (current : Nat) (levels : List Nat) :
    elements "span" "on_level" (levels.flatMap (measurePieces id metrics current)) =
      levels.map (measureTag id current) := by
  induction levels with
  | nil => rfl
  | cons level levels ih =>
    rw [List.flatMap_cons, elements_append, ih, List.map_cons, measurePieces, elements, List.map_cons,
      List.filter_cons_of_pos (opens_measureTag id current level)]
    rfl

theorem opens_estimationTag (h : kind ∈ kinds) (e : Estimation) : (estimationTag e).opens kind.1 kind.2 = false :=
  (by decide : ∀ kind ∈ kinds, Tag.opens kind.1 kind.2 ⟨"span", [("class", some "estimation")]⟩ = false) kind h

theorem opens_estimationPieces (h : kind ∈ kinds) (hselect : kind ≠ ("select", "level"))
    (hspan : kind ≠ ("span", "on_level")) (id : String) (metrics : Option Metrics) (e : Estimation) :
    ∀ p ∈ estimationPieces id metrics e, p.tag.opens kind.1 kind.2 = false := by
  rw [estimationPieces, List.cons_append, List.cons_append, List.forall_mem_cons, List.forall_mem_append,
    List.forall_mem_append, List.forall_mem_singleton]
  exact ⟨opens_estimationTag h e, ⟨opens_selectorPieces (by decide) h hselect _ _, opens_measurePieces h hspan _ _ _ _⟩,
    opens_of_otherName (by simp) h⟩

theorem opens_iconPieces (h : kind ∈ kinds) (hne : kind ≠ ("i", "comment-icon")) (id : String) :
    ∀ p ∈ iconPieces id, p.tag.opens kind.1 kind.2 = false := by
  have hicon : ∀ kind ∈ kinds, kind ≠ ("i", "comment-icon") → "i" ≠ kind.1 := by decide
  rw [iconPieces, List.forall_mem_cons, List.forall_mem_singleton]
  exact ⟨opens_of_name_ne (hicon kind h hne), opens_of_otherName (by simp) h⟩

theorem opens_judgment (h : kind ∈ kinds) (hne : kind ≠ ("select", "judgment")) (n : Node) (judgments : List String) :
    ∀ p ∈ n.label.judgment.elim [] (judgmentPieces n.id.text judgments), p.tag.opens kind.1 kind.2 = false :=
  forall_mem_elim fun _ => opens_selectorPieces (by decide) h hne _ _

theorem opens_estimation (h : kind ∈ kinds) (hselect : kind ≠ ("select", "level"))
    (hspan : kind ≠ ("span", "on_level")) (n : Node) :
    ∀ p ∈ n.label.estimation.elim [] (estimationPieces n.id.text n.payload.metrics),
      p.tag.opens kind.1 kind.2 = false :=
  forall_mem_elim (opens_estimationPieces h hselect hspan _ _)

theorem opens_comment (h : kind ∈ kinds) (hne : kind ≠ ("i", "comment-icon")) (n : Node) :
    ∀ p ∈ if n.label.comment.isSome then iconPieces n.id.text else [], p.tag.opens kind.1 kind.2 = false := by
  split
  · exact opens_iconPieces h hne _
  · exact List.forall_mem_nil _

/-! ## Levels to go back to -/

theorem value?_prev_selectorPieces (cls id : String) (entries : List (String × Bool)) :
    ∀ p ∈ selectorPieces cls id entries, p.tag.value? "prev" = none := by
  have hentries : ∀ p ∈ entries.flatMap entryPieces, p.tag.value? "prev" = none := by
    refine List.forall_mem_flatMap.2 fun ⟨value, selected⟩ _ => ?_
    rw [entryPieces, List.forall_mem_cons, List.forall_mem_singleton]
    cases selected <;> exact ⟨rfl, rfl⟩
  rw [selectorPieces, List.cons_append, List.forall_mem_cons, List.forall_mem_append, List.forall_mem_singleton]
  exact ⟨rfl, hentries, rfl⟩

theorem value?_prev_measurePieces (id : String) (metrics : Option Metrics) (current : Nat) (levels : List Nat) :
    ∀ p ∈ levels.flatMap (measurePieces id metrics current), p.tag.value? "prev" = none := by
  refine List.forall_mem_flatMap.2 fun level _ => ?_
  rw [measurePieces, List.forall_mem_cons, List.forall_mem_singleton]
  unfold measureTag
  split <;> exact ⟨rfl, rfl⟩

theorem previous_append (ps qs : List Piece) : previous (ps ++ qs) = previous ps ++ previous qs := by
  rw [previous, List.map_append, List.filterMap_append]
  rfl

theorem previous_eq_nil {ps : List Piece} (h : ∀ p ∈ ps, p.tag.value? "prev" = none) : previous ps = [] := by
  rw [previous, List.filterMap_eq_nil_iff, List.forall_mem_map]
  exact h

/-- Only an estimation has a level to go back to. -/
theorem previous_pieces (n : Node) (judgments : List String) :
    previous (pieces n judgments) = (n.label.estimation.map fun e => Nat.repr e.level).toList := by
  have htext : previous (textPieces n.label) = [] := rfl
  have hjudgment : previous (n.label.judgment.elim [] (judgmentPieces n.id.text judgments)) = [] :=
    previous_eq_nil (forall_mem_elim fun _ => value?_prev_selectorPieces _ _ _)
  have hcomment : previous (if n.label.comment.isSome then iconPieces n.id.text else []) = [] := by
    split <;> rfl
  rw [pieces, previous_append, previous_append, previous_append, htext, hjudgment, hcomment, List.nil_append,
    List.nil_append, List.append_nil]
  cases n.label.estimation with
  | none => rfl
  | some e =>
    have hselector := previous_eq_nil (value?_prev_selectorPieces "level" ("e_" ++ n.id.text) (levelEntries e))
    have hmeasures := previous_eq_nil
      (value?_prev_measurePieces n.id.text n.payload.metrics e.level (List.range e.levels))
    rw [Option.elim_some, estimationPieces, List.cons_append, ← List.singleton_append, previous_append,
      previous_append, previous_append, hselector, hmeasures]
    rfl

/-! ## Values to select from -/

/-- Of distinct values, the current one is selected and no other. -/
theorem filter_current {α : Type} [DecidableEq α] {l : List α} {a : α} (hl : l.Nodup) (ha : a ∈ l) :
    l.filter (· = a) = [a] := by
  rw [List.filter_eq, hl.count, if_pos ha, List.replicate_one]

theorem filter_entries {α : Type} [DecidableEq α] {l : List α} {a : α} (hl : l.Nodup) (ha : a ∈ l) (f : α → String) :
    (l.map fun b => (f b, decide (b = a))).filter (·.2) = [(f a, true)] := by
  rw [List.filter_map, Function.comp_def, filter_current hl ha, List.map_singleton, decide_eq_true rfl]

theorem offered_eq (judgments : List String) (current : Judgment) :
    offered judgments current = judgments ++ if current.name ∈ judgments then [] else [current.name] := by
  unfold offered
  by_cases h : current.name ∈ judgments
  · rw [if_pos (List.contains_iff_mem.2 h), if_pos h, List.append_nil]
  · rw [if_neg (mt List.contains_iff_mem.1 h), if_neg h]

theorem nodup_offered {current : Judgment} (h : judgments.Nodup) : (offered judgments current).Nodup := by
  rw [offered_eq]
  split
  · rwa [List.append_nil]
  · next hmem =>
    rw [← List.concat_eq_append]
    exact h.concat hmem

theorem mem_offered (judgments : List String) (current : Judgment) : current.name ∈ offered judgments current := by
  rw [offered_eq, List.mem_append]
  split
  · next h => exact Or.inl h
  · exact Or.inr (List.mem_singleton_self _)

/-! ## What a label shows -/

/-- The judgment selector offers the selectable judgments, and the current one. -/
theorem offers_judgment {current : Judgment} (hnodup : judgments.Nodup) (h : n.label.judgment = some current) :
    Offers (pieces n judgments) "judgment" (offered judgments current) current.name := by
  have hkind : ("select", "judgment") ∈ kinds := by decide
  have hvalues : (judgmentEntries judgments current).map Prod.fst = offered judgments current := by
    rw [judgmentEntries, List.map_map]
    exact List.map_id _
  have hafter := List.forall_mem_append.2
    ⟨opens_estimation hkind (by decide) (by decide) n, opens_comment hkind (by decide) n⟩
  have hoffers := offers_selectorPieces ("j_" ++ n.id.text) (by decide) (opens_textPieces hkind n.label) hafter
    (filter_entries (nodup_offered hnodup) (mem_offered judgments current) id)
  rw [← hvalues]
  rwa [pieces, h, Option.elim_some, judgmentPieces, judgmentEntries, List.append_assoc _ _ (ite _ _ _)]

/-- The level selector offers the levels. -/
theorem offers_level {e : Estimation} (h : n.label.estimation = some e) :
    Offers (pieces n judgments) "level" ((List.range e.levels).map Nat.repr) (Nat.repr e.level) := by
  have hkind : ("select", "level") ∈ kinds := by decide
  have hvalues : (levelEntries e).map Prod.fst = (List.range e.levels).map Nat.repr := by
    rw [levelEntries, List.map_map]
    rfl
  have hestimation : ∀ p ∈ [(⟨estimationTag e, ""⟩ : Piece)], p.tag.opens "select" "level" = false :=
    List.forall_mem_singleton.2 (opens_estimationTag hkind e)
  have hclosing : ∀ p ∈ [(⟨⟨"/span", []⟩, ""⟩ : Piece)], p.tag.opens "select" "level" = false :=
    List.forall_mem_singleton.2 (opens_of_otherName (by simp) hkind)
  have hbefore := List.forall_mem_append.2 ⟨List.forall_mem_append.2
    ⟨opens_textPieces hkind n.label, opens_judgment hkind (by decide) n judgments⟩, hestimation⟩
  have hafter := List.forall_mem_append.2 ⟨List.forall_mem_append.2
    ⟨opens_measurePieces hkind (by decide) n.id.text n.payload.metrics e.level (List.range e.levels), hclosing⟩,
    opens_comment hkind (by decide) n⟩
  have hoffers := offers_selectorPieces ("e_" ++ n.id.text) (by decide) hbefore hafter
    (filter_entries List.nodup_range (List.mem_range.2 e.level_lt) Nat.repr)
  rw [← hvalues]
  simpa only [pieces, h, Option.elim_some, estimationPieces, levelEntries, List.append_assoc, List.cons_append,
    List.nil_append] using hoffers

/-- The measures are those of the levels, and that of the current one is shown. -/
theorem measures_pieces {e : Estimation} (h : n.label.estimation = some e) :
    Measures (pieces n judgments) n.id.text e := by
  have hkind : ("span", "on_level") ∈ kinds := by decide
  have helements : elements "span" "on_level" (pieces n judgments) =
      (List.range e.levels).map (measureTag n.id.text e.level) := by
    have hopening : elements "span" "on_level" [⟨estimationTag e, ""⟩] = [] :=
      elements_eq_nil (List.forall_mem_singleton.2 (opens_estimationTag hkind e))
    have hclosing : elements "span" "on_level" [⟨⟨"/span", []⟩, ""⟩] = [] :=
      elements_eq_nil (List.forall_mem_singleton.2 (opens_of_otherName (by simp) hkind))
    have hselector := elements_eq_nil
      (opens_selectorPieces (by decide : "level" ∈ _) hkind (by decide) ("e_" ++ n.id.text) (levelEntries e))
    rw [pieces, h, Option.elim_some, estimationPieces, List.cons_append, ← List.singleton_append]
    simp only [elements_append, elements_eq_nil (opens_textPieces hkind n.label),
      elements_eq_nil (opens_judgment hkind (by decide) n judgments), hopening, hselector, elements_measurePieces,
      hclosing, elements_eq_nil (opens_comment hkind (by decide) n), List.nil_append, List.append_nil]
  refine ⟨?spans, ?inline, ?previous⟩
  case spans =>
    rw [helements, List.map_map]
    rfl
  case inline =>
    have hshown : ∀ level, decide ((measureTag n.id.text e.level level).value? "style" = some "display:inline;") =
        decide (level = e.level) := by
      intro level
      rw [value?_style_measureTag]
      split <;> simp_all
    rw [helements, List.filter_map, Function.comp_def, funext hshown,
      filter_current List.nodup_range (List.mem_range.2 e.level_lt), List.map_singleton, List.map_singleton]
    rfl
  case previous =>
    rw [previous_pieces, h]
    rfl

theorem elements_eq_nil_of_judgment (h : n.label.judgment = none) :
    elements "select" "judgment" (pieces n judgments) = [] := by
  have hkind : ("select", "judgment") ∈ kinds := by decide
  rw [pieces, h, Option.elim_none, List.append_nil, elements_append, elements_append,
    elements_eq_nil (opens_textPieces hkind n.label),
    elements_eq_nil (opens_estimation hkind (by decide) (by decide) n),
    elements_eq_nil (opens_comment hkind (by decide) n)]
  rfl

theorem elements_eq_nil_of_estimation (hkind : kind ∈ kinds) (hjudgment : kind ≠ ("select", "judgment"))
    (hicon : kind ≠ ("i", "comment-icon")) (h : n.label.estimation = none) :
    elements kind.1 kind.2 (pieces n judgments) = [] := by
  rw [pieces, h, Option.elim_none, List.append_nil, elements_append, elements_append,
    elements_eq_nil (opens_textPieces hkind n.label), elements_eq_nil (opens_judgment hkind hjudgment n judgments),
    elements_eq_nil (opens_comment hkind hicon n)]
  rfl

/-- There is one icon if there is a comment, and none otherwise. -/
theorem length_elements_icon (n : Node) (judgments : List String) :
    (elements "i" "comment-icon" (pieces n judgments)).length = if n.label.comment.isSome then 1 else 0 := by
  have hkind : ("i", "comment-icon") ∈ kinds := by decide
  rw [pieces, elements_append, elements_append, elements_append, elements_eq_nil (opens_textPieces hkind n.label),
    elements_eq_nil (opens_judgment hkind (by decide) n judgments),
    elements_eq_nil (opens_estimation hkind (by decide) (by decide) n), List.nil_append, List.nil_append,
    List.nil_append]
  split
  · have hopens : Tag.opens "i" "comment-icon" ⟨"i", [("class", some "jstree-icon comment-icon")]⟩ = true := by decide
    rw [iconPieces, elements, List.map_cons, List.filter_cons_of_pos (show (iconTag _).opens _ _ = true from hopens)]
    rfl
  · rfl

/-- **What the markup of a label shows.** It is made of pieces that a reader finds in it just if the identifier of the
node has no quote, or stands nowhere in the markup. Where there is a judgment, one selector offers the selectable
judgments in their order, and the current one at the end if it is not among them, and the current one alone is
selected. Where there is an estimation, one selector offers the levels, there is one measure for each of them, and of
both only those of the current level are selected and shown, which is also the level to go back to. There is an icon
just if there is a comment, and the comment is the title. -/
theorem selectors_ofNode (n : Node) (judgments : List String) (hnodup : judgments.Nodup) :
    ∃ ps, write ps = ofNode n judgments ∧
      (read? (ofNode n judgments) = some ps ↔ '"' ∉ n.id.text.toList ∨ (shapeOf n judgments).places = 0) ∧
      (match n.label.judgment with
        | some current => Offers ps "judgment"
            (judgments ++ if current.name ∈ judgments then [] else [current.name]) current.name
        | none => elements "select" "judgment" ps = []) ∧
      (match n.label.estimation with
        | some e => Offers ps "level" ((List.range e.levels).map Nat.repr) (Nat.repr e.level) ∧
            Measures ps n.id.text e
        | none => elements "select" "level" ps = [] ∧ elements "span" "on_level" ps = [] ∧ previous ps = []) ∧
      (elements "i" "comment-icon" ps).length = (if n.label.comment.isSome then 1 else 0) ∧
      titleOf n = n.label.comment := by
  refine ⟨pieces n judgments, write_pieces n judgments, read?_ofNode_iff, ?judgment, ?estimation,
    length_elements_icon n judgments, rfl⟩
  case judgment =>
    split
    · next current h =>
      rw [← offered_eq]
      exact offers_judgment hnodup h
    · next h => exact elements_eq_nil_of_judgment h
  case estimation =>
    split
    · next e h => exact ⟨offers_level h, measures_pieces h⟩
    · next h =>
      refine ⟨elements_eq_nil_of_estimation (by decide : ("select", "level") ∈ kinds) (by decide) (by decide) h,
        elements_eq_nil_of_estimation (by decide : ("span", "on_level") ∈ kinds) (by decide) (by decide) h, ?_⟩
      rw [previous_pieces, h]
      rfl

/-- A node with all that a label can have, whose judgment is not among the selectable ones. -/
theorem selectors_ofNode_unlisted :
    let judgments := ["NotYet", "Kernel"]
    let n : Node :=
      { id := ⟨"a", by decide, by decide⟩
        label := { judgment := some (.judged "Other"), estimation := some ⟨1, 3, by decide⟩, comment := some "why" } }
    judgments.Nodup ∧ ∃ ps, read? (ofNode n judgments) = some ps ∧
      Offers ps "judgment" ["NotYet", "Kernel", "Other"] "Other" ∧ Offers ps "level" ["0", "1", "2"] "1" ∧
      previous ps = ["1"] ∧ (elements "i" "comment-icon" ps).length = 1 ∧ titleOf n = some "why" := by
  intro judgments n
  obtain ⟨ps, -, hread, hjudgment, ⟨hlevel, hmeasures⟩, hicon, htitle⟩ := selectors_ofNode n judgments (by decide)
  exact ⟨by decide, ps, hread.2 (Or.inl (by decide)), hjudgment, hlevel, hmeasures.previous, hicon, htitle⟩

/-- An identifier that brings an entry of its own: two entries are selected. -/
theorem selectors_ofNode_entry_in_identifier :
    let n : Node :=
      { id := ⟨"\"><option value=\"Kernel\" selected>Kernel</option>", by decide, by decide⟩
        label := { judgment := some .notYet } }
    ∃ ps, read? (ofNode n ["NotYet", "Kernel"]) = some ps ∧
      (entriesOf (within "judgment" ps)).map Tag.entryValue? = [some "Kernel", some "NotYet", some "Kernel"] ∧
      ((entriesOf (within "judgment" ps)).filter Tag.selected).map Tag.entryValue? =
        [some "Kernel", some "NotYet"] := by
  intro n
  let brought : List Piece :=
    [⟨selectorTag "judgment" "j_", ""⟩, ⟨⟨"option", [("value", some "Kernel"), ("selected", none)]⟩, "Kernel"⟩,
      ⟨⟨"/option", []⟩, "\">"⟩]
  let ps : List Piece :=
    textPieces {} ++ brought ++ [("NotYet", true), ("Kernel", false)].flatMap entryPieces ++ [⟨⟨"/select", []⟩, ""⟩]
  have hbrought : ∀ p ∈ brought, p.tag.name ∈ tagNames ∧ (∀ a ∈ p.tag.attributes, a.1 ∈ keyNames) ∧
      (∀ a ∈ p.tag.attributes, ∀ value ∈ a.2, '"' ∉ value.toList) ∧ '<' ∉ p.text.toList := by decide
  have hplain : ∀ p ∈ ps, p.Plain := by
    refine List.forall_mem_append.2 ⟨List.forall_mem_append.2 ⟨List.forall_mem_append.2 ⟨plain_textPieces _, ?brought⟩,
      ?entries⟩, List.forall_mem_singleton.2 (plain_closing (by decide))⟩
    case brought =>
      intro p hp
      obtain ⟨hname, hkeys, hvalues, htext⟩ := hbrought p hp
      exact plain_of_names hname hkeys hvalues htext
    case entries => exact List.forall_mem_flatMap.2 fun e _ => plain_entryPieces e
  have hmarkup : ofNode n ["NotYet", "Kernel"] = write ps := by decide +kernel
  refine ⟨ps, ?_, by decide, by decide⟩
  rw [hmarkup, read?_write hplain]

end LoopSurvey.Markup
