import Mathlib.Data.List.SplitBy
import Mathlib.Data.Prod.Lex
import Mathlib.Order.Interval.Set.Defs
import LoopSurvey.Proofs.Source.Marks
import LoopSurvey.Viewer.Lines
/-!
# Lines in the source pane

The marks of a source are painted over a line one after the other, so a character has the style of the last mark over
its place (`LastOver`), or that of the line if there is none (`charStyles_spec`). The characters with their styles are
then joined to pieces of one style each. The pieces give back every character in its style (`cells_spansOf`), and as
few of them as can be (`isChain_spansOf`).
-/

namespace LoopSurvey

/-! ## Pieces -/

/-- The characters of a line, each in its style. -/
def Line.cells (l : Line) : List (Char × Style) := l.flatMap fun s => s.text.toList.map (·, s.style)

theorem Line.map_fst_cells (l : Line) : l.cells.map (·.1) = l.chars := by
  simp [cells, chars, List.map_flatMap, Function.comp_def]

section Pieces

variable {cs run : List (Char × Style)}

/-- All characters of a run are in the style of its piece. -/
theorem style_spanOf (h : run ∈ cs.splitBy fun a b => a.2 = b.2) {c : Char × Style} (hc : c ∈ run) :
    (spanOf run).style = c.2 := by
  -- neighbours are of one style, which carries over from the first character to all others
  have hchain : (run.map (·.2)).IsChain Eq :=
    (List.isChain_map _).2 ((List.isChain_of_mem_splitBy h).imp fun _ _ hab => of_decide_eq_true hab)
  cases run with
  | nil => exact absurd hc List.not_mem_nil
  | cons first run =>
    rcases List.mem_cons.1 hc with rfl | hc
    · rfl
    · exact (List.pairwise_cons.1 hchain.pairwise).1 c.2 (List.mem_map_of_mem hc)

/-- The pieces give back the characters, each in its style. -/
theorem cells_spansOf (cs : List (Char × Style)) : Line.cells (spansOf cs) = cs := by
  have hrun : ∀ run ∈ cs.splitBy fun a b => a.2 = b.2,
      (spanOf run).text.toList.map (·, (spanOf run).style) = id run := by
    intro run h
    have hcells : ∀ c ∈ run, (c.1, (spanOf run).style) = c := fun c hc => by rw [style_spanOf h hc]
    rw [spanOf, String.toList_ofList, List.map_map]
    exact (List.map_congr_left hcells).trans (List.map_id run)
  rw [Line.cells, spansOf, List.flatMap_map, List.flatMap_congr hrun, List.flatMap_id, List.flatten_splitBy]

theorem text_ne_empty_of_mem_spansOf {s : Span} (h : s ∈ spansOf cs) : s.text ≠ "" := by
  obtain ⟨run, hrun, rfl⟩ := List.mem_map.1 h
  have hne : run ≠ [] := List.ne_nil_of_mem_splitBy hrun
  simpa [spanOf, ← String.toList_inj] using hne

/-- Where one piece ends and the next one begins, the style changes. -/
theorem isChain_spansOf (cs : List (Char × Style)) : (spansOf cs).IsChain fun a b => a.style ≠ b.style := by
  rw [spansOf, List.isChain_map]
  refine (List.isChain_getLast_head_splitBy _ cs).imp_of_mem_imp fun a b ha hb ⟨hane, hbne, hab⟩ => ?_
  rw [style_spanOf ha (List.getLast_mem hane), style_spanOf hb (List.head_mem hbne)]
  exact of_decide_eq_false hab

end Pieces

/-! ## Marks over a place -/

namespace SourceMark

/-- The places of a mark, line by line: from its first one up to its last, which is not part of it. -/
def places (m : SourceMark) : Set (Nat ×ₗ Nat) := Set.Ico (toLex m.first) (toLex m.last)

instance (m : SourceMark) (place : Nat ×ₗ Nat) : Decidable (place ∈ m.places) :=
  inferInstanceAs (Decidable (toLex m.first ≤ place ∧ place < toLex m.last))

theorem mem_places {m : SourceMark} {line column : Nat} :
    toLex (line, column) ∈ m.places ↔
      (m.first.1 < line ∨ m.first.1 = line ∧ m.first.2 ≤ column) ∧
        (line < m.last.1 ∨ line = m.last.1 ∧ column < m.last.2) := by
  rw [places, Set.mem_Ico, Prod.Lex.toLex_le_toLex, Prod.Lex.toLex_lt_toLex]

theorem length_paint (m : SourceMark) (style : Style) (line : Nat) (styles : List Style) :
    (m.paint style line styles).length = styles.length := by
  unfold paint
  by_cases hon : m.isOn line = true
  · rw [if_pos hon]
    exact List.length_mapIdx
  · rw [if_neg hon]

/-- Painting a mark changes the styles at its places. -/
theorem getElem?_paint (m : SourceMark) (style : Style) (line k : Nat) (styles : List Style) :
    (m.paint style line styles)[k]? =
      (styles[k]?).map fun before => if toLex (line, k) ∈ m.places then style else before := by
  unfold paint
  by_cases hon : m.isOn line = true
  · rw [if_pos hon]
    dsimp only
    rw [List.getElem?_mapIdx]
    cases hk : styles[k]? with
    | none => rfl
    | some before =>
      obtain ⟨hlt, -⟩ := List.getElem?_eq_some_iff.1 hk
      rw [isOn, Bool.and_eq_true, decide_eq_true_eq, decide_eq_true_eq] at hon
      rw [Option.map_some, Option.map_some]
      refine congrArg some (if_congr ?_ rfl rfl)
      rw [mem_places]
      split_ifs <;> omega
  · have hnot : toLex (line, k) ∉ m.places := by
      rw [isOn, Bool.and_eq_true, decide_eq_true_eq, decide_eq_true_eq] at hon
      rw [mem_places]
      omega
    simp only [if_neg hon, if_neg hnot, Option.map_id']

end SourceMark

/-- The mark at a position is the last one over a place. -/
structure LastOver (marks : List SourceMark) (place : Nat ×ₗ Nat) (j : Nat) : Prop where
  covers : ∃ m, marks[j]? = some m ∧ place ∈ m.places
  le : ∀ (i : Nat) (m : SourceMark), marks[i]? = some m → place ∈ m.places → i ≤ j

namespace LastOver

variable {marks : List SourceMark} {m : SourceMark} {place : Nat ×ₗ Nat} {i j : Nat}

theorem unique (hi : LastOver marks place i) (hj : LastOver marks place j) : i = j := by
  obtain ⟨m, hm, hplace⟩ := hi.covers
  obtain ⟨m', hm', hplace'⟩ := hj.covers
  exact Nat.le_antisymm (hj.le i m hm hplace) (hi.le j m' hm' hplace')

/-- A mark over the place that comes behind all others is the last one. -/
theorem concat_of_mem (h : place ∈ m.places) : LastOver (marks ++ [m]) place marks.length where
  covers := ⟨m, List.getElem?_concat_length, h⟩
  le i m' hm' _ := by
    obtain ⟨hlt, -⟩ := List.getElem?_eq_some_iff.1 hm'
    rw [List.length_append, List.length_singleton] at hlt
    exact Nat.le_of_lt_succ hlt

/-- A mark behind the others that is not over the place does not count. -/
theorem concat (h : LastOver marks place j) (hm : place ∉ m.places) : LastOver (marks ++ [m]) place j where
  covers := by
    obtain ⟨m', hm', hplace⟩ := h.covers
    obtain ⟨hlt, -⟩ := List.getElem?_eq_some_iff.1 hm'
    exact ⟨m', (List.getElem?_append_left hlt).trans hm', hplace⟩
  le i m' hm' hplace := by
    rcases Nat.lt_trichotomy i marks.length with hlt | rfl | hgt
    · rw [List.getElem?_append_left hlt] at hm'
      exact h.le i m' hm' hplace
    · rw [List.getElem?_concat_length] at hm'
      exact absurd (Option.some.inj hm' ▸ hplace) hm
    · rw [List.getElem?_eq_none (by rw [List.length_append]; exact hgt)] at hm'
      cases hm'

end LastOver

section Styles

variable {marks : List SourceMark} {focused : Option Nat} {base s : Style} {line n k : Nat}

theorem charStyles_concat (m : SourceMark) :
    charStyles (marks ++ [m]) focused base line n =
      m.paint (markedStyle focused base marks.length) line (charStyles marks focused base line n) := by
  simp [charStyles, List.zipIdx_append]

theorem length_charStyles (marks : List SourceMark) (focused : Option Nat) (base : Style) (line n : Nat) :
    (charStyles marks focused base line n).length = n := by
  induction marks using List.reverseRecOn with
  | nil => exact List.length_replicate
  | append_singleton marks m ih => rw [charStyles_concat, SourceMark.length_paint, ih]

/-- The style of a character is that of the last mark over its place, or that of the line if there is none. -/
theorem charStyles_spec (h : (charStyles marks focused base line n)[k]? = some s) :
    (∀ m ∈ marks, toLex (line, k) ∉ m.places) ∧ s = base ∨
      ∃ j, LastOver marks (toLex (line, k)) j ∧ s = markedStyle focused base j := by
  induction marks using List.reverseRecOn generalizing s with
  | nil =>
    have hs : (List.replicate n base)[k]? = some s := h
    exact Or.inl ⟨fun m hm => absurd hm List.not_mem_nil, (List.eq_of_mem_replicate (List.mem_of_getElem? hs))⟩
  | append_singleton marks m ih =>
    rw [charStyles_concat, SourceMark.getElem?_paint] at h
    obtain ⟨before, hbefore, hs⟩ := Option.map_eq_some_iff.1 h
    split_ifs at hs with hm
    · exact Or.inr ⟨marks.length, .concat_of_mem hm, hs.symm⟩
    · subst hs
      rcases ih hbefore with ⟨hnone, he⟩ | ⟨j, hlast, he⟩
      · refine Or.inl ⟨fun m' hm' => ?_, he⟩
        rcases List.mem_append.1 hm' with hm' | hm'
        · exact hnone m' hm'
        · exact List.mem_singleton.1 hm' ▸ hm
      · exact Or.inr ⟨j, hlast.concat hm, he⟩

/-- A character is underlined where there is a mark over its place. -/
theorem underlined_iff (h : (charStyles marks focused base line n)[k]? = some s) (hbase : base.underlined = false) :
    s.underlined = true ↔ ∃ m ∈ marks, toLex (line, k) ∈ m.places := by
  rcases charStyles_spec h with ⟨hnone, rfl⟩ | ⟨j, hlast, rfl⟩
  · rw [hbase]
    exact ⟨nofun, fun ⟨m, hm, hplace⟩ => absurd hplace (hnone m hm)⟩
  · obtain ⟨m, hm, hplace⟩ := hlast.covers
    refine ⟨fun _ => ⟨m, List.mem_of_getElem? hm, hplace⟩, fun _ => ?_⟩
    unfold markedStyle
    split_ifs <;> rfl

/-- A character is reversed where the last mark over its place is looked at. -/
theorem reversed_iff (h : (charStyles marks focused base line n)[k]? = some s) (hbase : base.reversed = false) :
    s.reversed = true ↔ ∃ j, focused = some j ∧ LastOver marks (toLex (line, k)) j := by
  rcases charStyles_spec h with ⟨hnone, rfl⟩ | ⟨j, hlast, rfl⟩
  · rw [hbase]
    refine ⟨nofun, fun ⟨j, _, hlast⟩ => ?_⟩
    obtain ⟨m, hm, hplace⟩ := hlast.covers
    exact absurd hplace (hnone m (List.mem_of_getElem? hm))
  · unfold markedStyle
    split_ifs with hfocused
    · exact ⟨fun _ => ⟨j, hfocused, hlast⟩, fun _ => rfl⟩
    · rw [hbase]
      refine ⟨nofun, fun ⟨i, hi, hlast'⟩ => ?_⟩
      obtain rfl : i = j := hlast'.unique hlast
      exact absurd hi hfocused

/-- Marks leave the background as it is. -/
theorem background_charStyles (h : (charStyles marks focused base line n)[k]? = some s) :
    s.background = base.background := by
  rcases charStyles_spec h with ⟨-, rfl⟩ | ⟨j, -, rfl⟩
  · rfl
  · unfold markedStyle
    split_ifs <;> rfl

end Styles

/-! ## Lines -/

namespace SourceView

variable {text : String} {r : SourceRequest} {v : SourceView}

/-- The lines that are set off are those of the node, as far as they are there. -/
theorem lineStyle_of_build (h : build text r = .ok v) (palette : Palette) {i : Nat} (hi : i < v.lines.length) :
    v.lineStyle palette i =
      if 0 < r.startLine ∧ r.startLine ≤ i + 1 ∧ i + 1 ≤ r.endLine then palette.highlightStyle else {} := by
  obtain ⟨-, -, -, -, hhighlight⟩ := eq_of_build h
  refine if_congr ?_ rfl rfl
  rw [hhighlight]
  split_ifs with hrange
  · rw [Option.any_some, Bool.and_eq_true, decide_eq_true_eq, decide_eq_true_eq]
    omega
  · rw [Option.any_none]
    refine ⟨nofun, fun hline => ?_⟩
    omega

theorem cells_textSpans (v : SourceView) (palette : Palette) (focused : Option Nat) (i : Nat) (line : String) :
    Line.cells (v.textSpans palette focused i line) =
      line.toList.zip (charStyles v.marks focused (v.lineStyle palette i) i line.toList.length) :=
  cells_spansOf _

/-- No character of a line is lost or added. -/
theorem chars_textSpans (v : SourceView) (palette : Palette) (focused : Option Nat) (i : Nat) (line : String) :
    Line.chars (v.textSpans palette focused i line) = line.toList := by
  rw [← Line.map_fst_cells, cells_textSpans, List.map_fst_zip]
  rw [length_charStyles]

/-- **The source pane draws the source as it is.** Behind its number, every line is drawn by pieces of text that hold
its characters and nothing else, none of them empty and no two neighbours in one style. A character has the background
of the node exactly on the lines of the node, is underlined exactly where there is a mark over its place, and is
reversed exactly where the last mark over its place is the one looked at. -/
theorem styledLines_of_build (h : build text r = .ok v) (palette : Palette) (focused : Option Nat) :
    (v.styledLines palette focused).length = v.lines.length ∧
    ∀ (i : Nat) (line : String), v.lines[i]? = some line → ∃ (number : Span) (spans : Line),
      (v.styledLines palette focused)[i]? = some (number :: spans) ∧
      spans.chars = line.toList ∧ (∀ s ∈ spans, s.text ≠ "") ∧ (spans.IsChain fun a b => a.style ≠ b.style) ∧
      ∀ (k : Nat) (c : Char), line.toList[k]? = some c → ∃ style, spans.cells[k]? = some (c, style) ∧
        (style.background = some palette.highlight ↔
          0 < r.startLine ∧ r.startLine ≤ i + 1 ∧ i + 1 ≤ r.endLine) ∧
        (style.underlined = true ↔ ∃ m ∈ v.marks, toLex (i, k) ∈ m.places) ∧
        (style.reversed = true ↔ ∃ j, focused = some j ∧ LastOver v.marks (toLex (i, k)) j) := by
  refine ⟨by rw [styledLines, List.length_map, List.length_zipIdx], fun i line hline => ?_⟩
  obtain ⟨hi, -⟩ := List.getElem?_eq_some_iff.1 hline
  let number : Span := { text := padded (i + 1) (Nat.repr v.lines.length).length ++ " ", style := .colored .darkGray }
  refine ⟨number, v.textSpans palette focused i line, by simp [styledLines, hline, number], v.chars_textSpans ..,
    fun s hs => text_ne_empty_of_mem_spansOf hs, isChain_spansOf _, fun k c hc => ?_⟩
  obtain ⟨hk, -⟩ := List.getElem?_eq_some_iff.1 hc
  obtain ⟨style, hstyle⟩ : ∃ style,
      (charStyles v.marks focused (v.lineStyle palette i) i line.toList.length)[k]? = some style :=
    ⟨_, List.getElem?_eq_getElem (by rwa [length_charStyles])⟩
  have hcell : (Line.cells (v.textSpans palette focused i line))[k]? = some (c, style) := by
    rw [cells_textSpans]
    exact List.getElem?_zip_eq_some.2 ⟨hc, hstyle⟩
  have hbase := lineStyle_of_build h palette hi
  refine ⟨style, hcell, ?background, underlined_iff hstyle ?_, reversed_iff hstyle ?_⟩
  case background =>
    rw [background_charStyles hstyle, hbase]
    split_ifs with hnode
    · exact ⟨fun _ => hnode, fun _ => rfl⟩
    · exact ⟨nofun, fun hnode' => absurd hnode' hnode⟩
  all_goals
    rw [hbase]
    split_ifs <;> rfl

/-- The range of a loop of two lines. -/
def loopRange : AnnotationRange := { start := ⟨1, 0⟩, stop := ⟨2, 5⟩ }

/-- The range of its variable, in the first line. -/
def variableRange : AnnotationRange := { start := ⟨1, 3⟩, stop := ⟨1, 3⟩ }

/-- A request for the first line of a source, with a range inside another one. -/
def nestedRequest : SourceRequest :=
  { requestOf loopRange with
    startLine := 1
    endLine := 1
    ranges := some ("[\x7b\"start\":\x7b\"line\":1,\"ch\":0\x7d,\"end\":\x7b\"line\":2,\"ch\":5\x7d\x7d," ++
      "\x7b\"start\":\x7b\"line\":1,\"ch\":3\x7d,\"end\":\x7b\"line\":1,\"ch\":3\x7d\x7d]") }

/-- While the loop is looked at, its variable is underlined on the background of the node, but not reversed: the mark
of the variable is behind that of the loop. -/
theorem styledLines_of_build_nested :
    ∃ v number spans style, build "do i = 1\nend do" nestedRequest = .ok v ∧
      (v.styledLines {} (some 0))[0]? = some (number :: spans) ∧ Line.chars spans = "do i = 1".toList ∧
      (Line.cells spans)[3]? = some ('i', style) ∧ style.background = some .darkGray ∧ style.underlined = true ∧
      style.reversed = false := by
  have hranges : rangesOf nestedRequest = .ok [loopRange, variableRange] := by decide +kernel
  obtain ⟨v, locator, hbuild, hlines, hmarks⟩ := build_of_rangesOf "do i = 1\nend do" hranges
  have hline : v.lines[0]? = some "do i = 1" := by
    rw [hlines]
    decide +kernel
  have hvariable : v.marks[1]? = some (.ofRange v.lines locator variableRange) := by
    rw [hmarks]
    rfl
  have hover : toLex (0, 3) ∈ (SourceMark.ofRange v.lines locator variableRange).places := by
    rw [SourceMark.mem_places]
    exact ⟨Or.inr ⟨rfl, Nat.le_refl 3⟩, Or.inr ⟨rfl, Nat.lt_succ_self 3⟩⟩
  obtain ⟨-, hdrawn⟩ := styledLines_of_build hbuild {} (some 0)
  obtain ⟨number, spans, hstyled, hchars, -, -, hcells⟩ := hdrawn 0 _ hline
  obtain ⟨style, hcell, hbackground, hunderlined, hreversed⟩ := hcells 3 'i' (by decide +kernel)
  refine ⟨v, number, spans, style, hbuild, hstyled, hchars, hcell, hbackground.2 (by decide),
    hunderlined.2 ⟨_, List.mem_of_getElem? hvariable, hover⟩, ?_⟩
  rw [← Bool.not_eq_true, hreversed]
  rintro ⟨j, hj, hlast⟩
  obtain rfl := Option.some.inj hj
  exact absurd (hlast.le 1 _ hvariable hover) (by decide)

end SourceView

end LoopSurvey
