import LoopSurvey.Proofs.Viewer.SourceLines
/-!
# The mark that is looked at

A character of a source is drawn in one style (`SourceView.exists_drawnIn`, `SourceView.DrawnIn.style_eq`). It is
reversed where the mark that is looked at covers it and no mark behind that one does (`SourceView.DrawnIn.reversed_iff`),
since marks are painted one over the other. So the mark that is looked at is shown whole just if none of its characters
is covered by a mark behind it (`SourceView.focused_whole_iff`).
-/

namespace LoopSurvey

/-- The last mark over a place is a mark over it with none over it behind. -/
theorem lastOver_iff {marks : List SourceMark} {place : Nat ×ₗ Nat} {j : Nat} {m : SourceMark}
    (hm : marks[j]? = some m) : LastOver marks place j ↔
      place ∈ m.places ∧ ∀ (i : Nat) (m' : SourceMark), j < i → marks[i]? = some m' → place ∉ m'.places := by
  constructor
  · intro h
    obtain ⟨m', hm', hplace⟩ := h.covers
    obtain rfl : m' = m := Option.some.inj (hm'.symm.trans hm)
    exact ⟨hplace, fun i m' hlt hi hover => absurd (h.le i m' hi hover) (Nat.not_le.2 hlt)⟩
  · rintro ⟨hplace, hbehind⟩
    exact ⟨⟨m, hm, hplace⟩, fun i m' hi hover => Nat.le_of_not_lt fun hlt => hbehind i m' hlt hi hover⟩

namespace SourceView

variable {v : SourceView} {palette : Palette} {focused : Option Nat} {i j k : Nat} {m : SourceMark} {c : Char}
  {style : Style}

/-! ## Characters as they are drawn -/

/-- There is a character of the source in a column of a line, counted from 0. -/
def HasChar (v : SourceView) (i k : Nat) (c : Char) : Prop :=
  ∃ line, v.lines[i]? = some line ∧ line.toList[k]? = some c

/-- Behind the number of a line, a character is drawn in a style. -/
def DrawnIn (v : SourceView) (palette : Palette) (focused : Option Nat) (i k : Nat) (c : Char) (style : Style) : Prop :=
  ∃ number spans, (v.styledLines palette focused)[i]? = some (number :: spans) ∧
    (Line.cells spans)[k]? = some (c, style)

theorem drawnIn_iff : v.DrawnIn palette focused i k c style ↔
    ∃ line, v.lines[i]? = some line ∧ line.toList[k]? = some c ∧
      (charStyles v.marks focused (v.lineStyle palette i) i line.toList.length)[k]? = some style := by
  unfold DrawnIn styledLines
  simp only [List.getElem?_map, List.getElem?_zipIdx, Nat.zero_add, Option.map_map, Option.map_eq_some_iff,
    Function.comp, List.cons.injEq]
  constructor
  · rintro ⟨number, spans, ⟨line, hline, -, rfl⟩, hcell⟩
    rw [cells_textSpans, List.getElem?_zip_eq_some] at hcell
    exact ⟨line, hline, hcell⟩
  · rintro ⟨line, hline, hcell⟩
    refine ⟨_, _, ⟨line, hline, rfl, rfl⟩, ?_⟩
    rw [cells_textSpans, List.getElem?_zip_eq_some]
    exact hcell

/-- Every character of the source is drawn. -/
theorem exists_drawnIn (palette : Palette) (focused : Option Nat) (h : v.HasChar i k c) :
    ∃ style, v.DrawnIn palette focused i k c style := by
  obtain ⟨line, hline, hc⟩ := h
  obtain ⟨hk, -⟩ := List.getElem?_eq_some_iff.1 hc
  exact ⟨_, drawnIn_iff.2 ⟨line, hline, hc, List.getElem?_eq_getElem (by rwa [length_charStyles])⟩⟩

/-- A character is drawn in one style. -/
theorem DrawnIn.style_eq {style' : Style} (h : v.DrawnIn palette focused i k c style)
    (h' : v.DrawnIn palette focused i k c style') : style = style' := by
  obtain ⟨line, hline, -, hstyle⟩ := drawnIn_iff.1 h
  obtain ⟨line', hline', -, hstyle'⟩ := drawnIn_iff.1 h'
  obtain rfl : line = line' := Option.some.inj (hline.symm.trans hline')
  exact Option.some.inj (hstyle.symm.trans hstyle')

theorem reversed_lineStyle (v : SourceView) (palette : Palette) (i : Nat) :
    (v.lineStyle palette i).reversed = false := by
  unfold lineStyle
  split_ifs <;> rfl

/-! ## What is reversed -/

/-- Reversed is what the mark that is looked at covers, and no mark behind it. -/
theorem DrawnIn.reversed_iff (hm : v.marks[j]? = some m) (h : v.DrawnIn palette (some j) i k c style) :
    style.reversed = true ↔ toLex (i, k) ∈ m.places ∧
      ∀ (j' : Nat) (m' : SourceMark), j < j' → v.marks[j']? = some m' → toLex (i, k) ∉ m'.places := by
  obtain ⟨line, -, -, hstyle⟩ := drawnIn_iff.1 h
  rw [LoopSurvey.reversed_iff hstyle (v.reversed_lineStyle palette i), ← lastOver_iff hm]
  simp only [Option.some.injEq, exists_eq_left']

/-- **When the mark that is looked at is shown whole.** A character of the source is reversed just if the mark that is
looked at covers it and no mark behind that one does. So all characters of the mark are reversed just if none of them is
covered by a mark behind it, in particular those of a mark with no mark behind it. -/
theorem focused_whole_iff (v : SourceView) (palette : Palette) (hm : v.marks[j]? = some m) :
    (∀ i k c, v.HasChar i k c → ∃ style, v.DrawnIn palette (some j) i k c style ∧
      (style.reversed = true ↔ toLex (i, k) ∈ m.places ∧
        ∀ (j' : Nat) (m' : SourceMark), j < j' → v.marks[j']? = some m' → toLex (i, k) ∉ m'.places)) ∧
    ((∀ i k c, v.HasChar i k c → toLex (i, k) ∈ m.places →
        ∃ style, v.DrawnIn palette (some j) i k c style ∧ style.reversed = true) ↔
      ∀ (j' : Nat) (m' : SourceMark), j < j' → v.marks[j']? = some m' →
        ∀ i k c, v.HasChar i k c → toLex (i, k) ∈ m.places → toLex (i, k) ∉ m'.places) := by
  refine ⟨fun i k c hc => ?_, fun h j' m' hlt hm' i k c hc hplace => ?_, fun h i k c hc hplace => ?_⟩
  · obtain ⟨style, hdrawn⟩ := exists_drawnIn palette (some j) hc
    exact ⟨style, hdrawn, hdrawn.reversed_iff hm⟩
  · obtain ⟨style, hdrawn, hreversed⟩ := h i k c hc hplace
    exact ((hdrawn.reversed_iff hm).1 hreversed).2 j' m' hlt hm'
  · obtain ⟨style, hdrawn⟩ := exists_drawnIn palette (some j) hc
    exact ⟨style, hdrawn, (hdrawn.reversed_iff hm).2 ⟨hplace, fun j' m' hlt hm' => h j' m' hlt hm' i k c hc hplace⟩⟩

/-- Two marks of which the first one, of a loop, is over the second one, of its variable. -/
theorem exists_nested : ∃ v outer inner, build "do i = 1\nend do" nestedRequest = .ok v ∧
    v.marks = [outer, inner] ∧ v.HasChar 0 3 'i' ∧ toLex (0, 3) ∈ outer.places ∧ toLex (0, 3) ∈ inner.places := by
  have hranges : rangesOf nestedRequest = .ok [loopRange, variableRange] := by decide +kernel
  obtain ⟨v, locator, hbuild, hlines, hmarks⟩ := build_of_rangesOf "do i = 1\nend do" hranges
  have hchar : v.HasChar 0 3 'i' := by
    refine ⟨"do i = 1", ?_, by decide +kernel⟩
    rw [hlines]
    decide +kernel
  refine ⟨v, _, _, hbuild, hmarks, hchar, ?_, ?_⟩ <;> rw [SourceMark.mem_places] <;>
    simp [SourceMark.ofRange, loopRange, variableRange]

/-- The variable has no mark behind it and is reversed while it is looked at. -/
theorem focused_whole_iff_nested : ∃ v m style, build "do i = 1\nend do" nestedRequest = .ok v ∧ v.marks[1]? = some m ∧
    toLex (0, 3) ∈ m.places ∧ v.DrawnIn {} (some 1) 0 3 'i' style ∧ style.reversed = true := by
  obtain ⟨v, outer, inner, hbuild, hmarks, hchar, -, hplace⟩ := exists_nested
  have hm : v.marks[1]? = some inner := by rw [hmarks]; rfl
  have hlast : ∀ (j' : Nat) (m' : SourceMark), 1 < j' → v.marks[j']? ≠ some m' := fun j' m' hlt hm' => by
    obtain ⟨hj', -⟩ := List.getElem?_eq_some_iff.1 hm'
    rw [hmarks] at hj'
    exact absurd hj' (Nat.not_lt.2 hlt)
  obtain ⟨style, hdrawn, hreversed⟩ := (focused_whole_iff v {} hm).2.2
    (fun j' m' hlt hm' => absurd hm' (hlast j' m' hlt)) 0 3 'i' hchar hplace
  exact ⟨v, inner, style, hbuild, hm, hplace, hdrawn, hreversed⟩

/-- While the loop is looked at, its variable is drawn as if it were not. -/
theorem focused_not_whole_nested : ∃ v m style, build "do i = 1\nend do" nestedRequest = .ok v ∧ v.marks[0]? = some m ∧
    v.HasChar 0 3 'i' ∧ toLex (0, 3) ∈ m.places ∧ v.DrawnIn {} (some 0) 0 3 'i' style ∧ style.reversed = false := by
  obtain ⟨v, outer, inner, hbuild, hmarks, hchar, hplace, hcovered⟩ := exists_nested
  have hm : v.marks[0]? = some outer := by rw [hmarks]; rfl
  have hbehind : v.marks[1]? = some inner := by rw [hmarks]; rfl
  obtain ⟨style, hdrawn⟩ := exists_drawnIn {} (some 0) hchar
  refine ⟨v, outer, style, hbuild, hm, hchar, hplace, hdrawn, ?_⟩
  rw [← Bool.not_eq_true, hdrawn.reversed_iff hm]
  exact fun h => h.2 1 inner Nat.zero_lt_one hbehind hcovered

end SourceView

end LoopSurvey
