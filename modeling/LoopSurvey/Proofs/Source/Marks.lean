import Mathlib.Data.List.Perm.Subperm
import LoopSurvey.Proofs.Record.Loading
import LoopSurvey.Source.View
/-!
# The text of a mark

The lines of a source, joined by line feeds, are one text (`Text.joined`), in which every place has an offset
(`Text.offset`). What comes before a place of the source (`Text.upTo`) is the beginning of the joined lines up to its
offset (`take_offset`), and the text of a span carries it on from the first place to the last (`upTo_append_textBetween`).
So the text of a span that is inside the source is the part of the joined lines between the two offsets. A span that
is not has no other characters than those of the source (`textBetween_subperm`), but for a line feed for each line that
is asked for behind the end of the source (`textBetween_subperm_append`).
-/

namespace LoopSurvey

namespace Text

/-! ## Places in the joined lines -/

/-- The characters of a line, counted from 0. A line that is not there has none. -/
def lineAt (lines : List String) (line : Nat) : List Char := ((lines[line]?).getD "").toList

/-- The lines, joined by line feeds. -/
def joined (lines : List String) : List Char := ['\n'].intercalate (lines.map String.toList)

/-- The lines with a line feed after each. -/
def ended (lines : List String) : List Char := lines.flatMap fun line => line.toList ++ ['\n']

/-- How many characters the lines before a line have, with their line feeds, and how many come before the column. -/
def offset (lines : List String) (place : Nat × Nat) : Nat := (ended (lines.take place.1)).length + place.2

/-- What comes before a place. -/
def upTo (lines : List String) (place : Nat × Nat) : List Char :=
  ended (lines.take place.1) ++ (lineAt lines place.1).take place.2

variable {lines : List String} {i : Nat} {place : Nat × Nat}

theorem lineAt_of_length_le (h : lines.length ≤ i) : lineAt lines i = [] := by
  rw [lineAt, List.getElem?_eq_none h]
  rfl

theorem ended_take_succ (h : i < lines.length) :
    ended (lines.take (i + 1)) = ended (lines.take i) ++ lineAt lines i ++ ['\n'] := by
  rw [ended, List.take_add_one, List.flatMap_append, lineAt, List.getElem?_eq_getElem h, List.append_assoc]
  simp [ended]

theorem joined_cons {rest : List String} (h : rest ≠ []) (line : String) :
    joined (line :: rest) = line.toList ++ '\n' :: joined rest := by
  simp [joined, List.intercalate_cons_of_ne_nil, h]

/-- The joined lines begin with those before a line, ended, and go on with that one. -/
theorem exists_joined_eq (h : i < lines.length) :
    ∃ rest, joined lines = ended (lines.take i) ++ (lineAt lines i ++ rest) := by
  induction lines generalizing i with
  | nil => exact absurd h (Nat.not_lt_zero i)
  | cons line rest ih =>
    cases i with
    | zero =>
      cases rest with
      | nil => exact ⟨[], by simp [joined, ended, lineAt]⟩
      | cons next rest =>
        exact ⟨'\n' :: joined (next :: rest), by simp [joined, ended, lineAt, List.intercalate_cons_cons]⟩
    | succ i =>
      obtain ⟨after, hafter⟩ := ih (Nat.lt_of_succ_lt_succ h)
      have hrest : rest ≠ [] := List.ne_nil_of_length_pos (Nat.zero_lt_of_lt (Nat.lt_of_succ_lt_succ h))
      refine ⟨after, ?_⟩
      rw [joined_cons hrest, hafter]
      simp [ended, lineAt]

/-- What comes before a place is as long as its offset. -/
theorem length_upTo (h : place.2 ≤ (lineAt lines place.1).length) :
    (upTo lines place).length = offset lines place := by
  rw [upTo, offset, List.length_append, List.length_take, Nat.min_eq_left h]

/-- What comes before a place is what the joined lines begin with. -/
theorem take_offset (hline : place.1 < lines.length) (hcolumn : place.2 ≤ (lineAt lines place.1).length) :
    (joined lines).take (offset lines place) = upTo lines place := by
  obtain ⟨rest, hrest⟩ := exists_joined_eq hline
  rw [hrest, offset, List.take_length_add_append, List.take_append_of_le_length hcolumn, upTo]

/-- An empty line at the end is a line feed at most. -/
theorem joined_concat_sublist (lines : List String) : (joined (lines ++ [""])).Sublist (joined lines ++ ['\n']) := by
  induction lines with
  | nil => exact List.nil_sublist _
  | cons line rest ih =>
    rw [List.cons_append, joined_cons (by simp)]
    cases rest with
    | nil => simp [joined]
    | cons next rest =>
      rw [joined_cons (List.cons_ne_nil _ _), List.append_assoc, List.cons_append]
      exact (ih.cons_cons '\n').append_left line.toList

/-- Empty lines at the end are as many line feeds at most. -/
theorem joined_append_sublist (lines : List String) (n : Nat) :
    (joined (lines ++ List.replicate n "")).Sublist (joined lines ++ List.replicate n '\n') := by
  induction n with
  | zero => simp
  | succ n ih =>
    rw [List.replicate_succ', List.replicate_succ', ← List.append_assoc, ← List.append_assoc]
    exact (joined_concat_sublist _).trans (ih.append_right _)

/-- Empty lines at the end are like lines that are not there. -/
theorem lineAt_append (lines : List String) (n : Nat) : lineAt (lines ++ List.replicate n "") = lineAt lines := by
  funext i
  by_cases h : i < lines.length
  · rw [lineAt, List.getElem?_append_left h, lineAt]
  · rw [lineAt_of_length_le (Nat.not_lt.1 h), lineAt, List.getElem?_append_right (Nat.not_lt.1 h),
      List.getElem?_replicate]
    split <;> rfl

end Text

namespace SourceMark

open Text (ended ended_take_succ joined length_upTo lineAt lineAt_of_length_le offset take_offset upTo)

variable {lines : List String} {first last : Nat × Nat}

/-! ## The text of a span -/

theorem textBetween_of_eq (h : first.1 = last.1) :
    textBetween lines first last = ((lineAt lines first.1).drop first.2).take (last.2 - first.2) :=
  if_pos h

/-- The lines between two others, each after a line feed. -/
def between (lines : List String) (first last : Nat) : List Char :=
  (List.range' (first + 1) (last - (first + 1))).flatMap fun i => '\n' :: lineAt lines i

theorem textBetween_of_ne (h : first.1 ≠ last.1) :
    textBetween lines first last =
      (lineAt lines first.1).drop first.2 ++ between lines first.1 last.1 ++
        '\n' :: (lineAt lines last.1).take last.2 :=
  if_neg h

/-- A line with those that follow it up to another one, ended. -/
theorem ended_take_of_lt {i j : Nat} (hlt : i < j) (hj : j < lines.length) :
    ended (lines.take j) = ended (lines.take i) ++ lineAt lines i ++ between lines i j ++ ['\n'] := by
  obtain ⟨n, rfl⟩ := Nat.exists_eq_add_of_lt hlt
  have hcount : i + n + 1 - (i + 1) = n := by omega
  rw [between, hcount]
  clear hcount hlt
  induction n with
  | zero => simpa using ended_take_succ (Nat.lt_of_succ_lt hj)
  | succ n ih =>
    have hline : i + 1 + n = i + n + 1 := by omega
    rw [← Nat.add_assoc] at hj ⊢
    have hj' : i + n + 1 < lines.length := Nat.lt_of_succ_lt hj
    rw [ended_take_succ hj', ih hj', List.range'_1_concat, List.flatMap_append, hline]
    simp

/-- The text of a span carries what comes before its first place on to its last place. -/
theorem upTo_append_textBetween (hlines : first.1 ≤ last.1) (hlast : last.1 < lines.length)
    (hsame : first.1 = last.1 → first.2 ≤ last.2) :
    upTo lines first ++ textBetween lines first last = upTo lines last := by
  rcases Nat.eq_or_lt_of_le hlines with he | hlt
  · obtain ⟨n, hn⟩ := Nat.exists_eq_add_of_le (hsame he)
    rw [textBetween_of_eq he, upTo, upTo, he, hn, Nat.add_sub_cancel_left, List.append_assoc, ← List.take_add]
  · rw [textBetween_of_ne (Nat.ne_of_lt hlt), upTo, upTo, ended_take_of_lt hlt hlast]
    have hfirst := List.take_append_drop first.2 (lineAt lines first.1)
    simp only [List.append_assoc, List.singleton_append]
    rw [← List.append_assoc (List.take _ _), hfirst]

/-- **The text of a span inside the source** is the part of the joined lines between its two offsets. -/
theorem textBetween_eq_extract (hlines : first.1 ≤ last.1) (hlast : last.1 < lines.length)
    (hfirst : first.2 ≤ (lineAt lines first.1).length) (hcolumn : last.2 ≤ (lineAt lines last.1).length)
    (hsame : first.1 = last.1 → first.2 ≤ last.2) :
    textBetween lines first last = (joined lines).extract (offset lines first) (offset lines last) := by
  rw [List.extract_eq_take_drop, ← List.drop_take, take_offset hlast hcolumn,
    ← upTo_append_textBetween hlines hlast hsame, ← length_upTo hfirst, List.drop_left]

/-! ## The characters of a span -/

theorem lineAt_sublist_joined (lines : List String) (i : Nat) : (lineAt lines i).Sublist (joined lines) := by
  by_cases h : i < lines.length
  · obtain ⟨rest, hrest⟩ := Text.exists_joined_eq h
    rw [hrest]
    exact (List.sublist_append_left _ _).trans (List.sublist_append_right _ _)
  · rw [lineAt_of_length_le (Nat.not_lt.1 h)]
    exact List.nil_sublist _

/-- Whole lines with those between them are found in the joined lines. -/
theorem between_sublist_joined {i j : Nat} (hlt : i < j) (hj : j < lines.length) :
    (lineAt lines i ++ between lines i j ++ '\n' :: lineAt lines j).Sublist (joined lines) := by
  have hwhole : textBetween lines (i, 0) (j, (lineAt lines j).length) = (joined lines).extract _ _ :=
    textBetween_eq_extract (Nat.le_of_lt hlt) hj (Nat.zero_le _) (Nat.le_refl _) fun he =>
      absurd he (Nat.ne_of_lt hlt)
  rw [textBetween_of_ne (Nat.ne_of_lt hlt), List.drop_zero, List.take_length] at hwhole
  rw [hwhole, List.extract_eq_take_drop]
  exact (List.take_sublist _ _).trans (List.drop_sublist _ _)

/-- A span of one line has characters of this line alone. -/
theorem textBetween_sublist_of_eq (h : first.1 = last.1) : (textBetween lines first last).Sublist (joined lines) := by
  rw [textBetween_of_eq h]
  exact ((List.take_sublist _ _).trans (List.drop_sublist _ _)).trans (lineAt_sublist_joined lines _)

/-- The text of a span is made of characters of the source if its lines are there, whichever comes first. -/
theorem textBetween_subperm (hfirst : first.1 < lines.length) (hlast : last.1 < lines.length) :
    (textBetween lines first last).Subperm (joined lines) := by
  rcases Nat.lt_trichotomy first.1 last.1 with hlt | he | hgt
  · rw [textBetween_of_ne (Nat.ne_of_lt hlt)]
    refine List.Sublist.subperm (List.Sublist.trans ?_ (between_sublist_joined hlt hlast))
    exact ((List.drop_sublist _ _).append_right _).append ((List.take_sublist _ _).cons_cons _)
  · exact (textBetween_sublist_of_eq he).subperm
  · -- the lines stand the other way round in the source, and there are none between them in the text
    have hnone : between lines first.1 last.1 = [] := by
      rw [between, Nat.sub_eq_zero_of_le (Nat.le_succ_of_le (Nat.le_of_lt hgt))]
      rfl
    rw [textBetween_of_ne (Nat.ne_of_gt hgt), hnone, List.append_nil]
    have hturned : ((lineAt lines first.1).drop first.2 ++ '\n' :: (lineAt lines last.1).take last.2).Perm
        ((lineAt lines last.1).take last.2 ++ '\n' :: (lineAt lines first.1).drop first.2) :=
      List.perm_append_comm.trans (by rw [List.cons_append]; exact List.perm_middle.symm)
    refine hturned.subperm.trans (List.Sublist.subperm (List.Sublist.trans ?_ (between_sublist_joined hgt hfirst)))
    refine List.Sublist.append ?_ ((List.drop_sublist _ _).cons_cons _)
    exact (List.take_sublist _ _).trans (List.sublist_append_left _ _)

/-- The text of a span only depends on the characters of the lines. -/
theorem textBetween_congr {lines' : List String} (h : lineAt lines = lineAt lines') (first last : Nat × Nat) :
    textBetween lines first last = textBetween lines' first last := by
  by_cases he : first.1 = last.1
  · rw [textBetween_of_eq he, textBetween_of_eq he, h]
  · rw [textBetween_of_ne he, textBetween_of_ne he, between, between, h]

/-- Whatever its lines are, the text of a span is made of characters of the source and, for each line that is asked
for behind its end, a line feed. -/
theorem textBetween_subperm_append {n : Nat} (hfirst : first.1 < lines.length + n) (hlast : last.1 < lines.length + n) :
    (textBetween lines first last).Subperm (joined lines ++ List.replicate n '\n') := by
  rw [← textBetween_congr (Text.lineAt_append lines n)]
  refine (textBetween_subperm ?_ ?_).trans (Text.joined_append_sublist lines n).subperm
  · simpa using hfirst
  · simpa using hlast

theorem text_ofRange (lines : List String) (locator : Option Locator) (r : AnnotationRange) :
    (ofRange lines locator r).text =
      String.ofList (textBetween lines (r.start.line - 1, r.start.column) (r.stop.line - 1, r.stop.column + 1)) := rfl

end SourceMark

/-- A range inside a source: its lines are there, in their order, and its columns, the one after its last character
too, are on them. -/
structure AnnotationRange.Inside (r : AnnotationRange) (lines : List String) : Prop where
  start_pos : 1 ≤ r.start.line
  start_le_stop : r.start.line ≤ r.stop.line
  stop_le : r.stop.line ≤ lines.length
  start_column : r.start.column ≤ (Text.lineAt lines (r.start.line - 1)).length
  stop_column : r.stop.column + 1 ≤ (Text.lineAt lines (r.stop.line - 1)).length
  columns : r.start.line = r.stop.line → r.start.column ≤ r.stop.column + 1

namespace SourceView

open Text (joined offset)

variable {r : SourceRequest} {ranges : List AnnotationRange}

/-! ## The marks of a view -/

/-- A view has the lines of its text, a mark for each range of its request, and the lines of its node set off. -/
theorem eq_of_build {text : String} {v : SourceView} (h : build text r = .ok v) :
    ∃ ranges, rangesOf r = .ok ranges ∧ v.lines = Text.lines text ∧
      v.marks = ranges.map (SourceMark.ofRange v.lines (r.locator.or (Locator.ofAddress? r.address))) ∧
      v.highlight =
        if 0 < r.startLine ∧ r.startLine ≤ r.endLine then some (r.startLine - 1, min r.endLine v.lines.length)
        else none := by
  unfold build at h
  obtain ⟨ranges, hranges, hv⟩ := bind_eq_ok.1 h
  obtain rfl := pure_eq_ok.1 hv
  exact ⟨ranges, hranges, rfl, rfl, rfl⟩

/-- A text can be viewed if the ranges can be read, and its marks are those of the ranges. -/
theorem build_of_rangesOf (text : String) (h : rangesOf r = .ok ranges) :
    ∃ v locator, build text r = .ok v ∧ v.lines = Text.lines text ∧
      v.marks = ranges.map (SourceMark.ofRange v.lines locator) := by
  unfold build
  rw [h]
  exact ⟨_, _, rfl, rfl, rfl⟩

/-- **The text of a mark is the annotated part of the source.** Each range of a request that is inside the source has,
at its own place among the marks, one that goes from its start to behind its end, counted from 0, and the text of this
mark is the part of the joined lines between the offsets of both. -/
theorem marks_eq_extract (text : String) (h : rangesOf r = .ok ranges) :
    ∃ v, build text r = .ok v ∧ v.lines = Text.lines text ∧ v.marks.length = ranges.length ∧
      ∀ (i : Nat) (range : AnnotationRange), ranges[i]? = some range → range.Inside v.lines → ∃ m, v.marks[i]? = some m ∧
        m.first = (range.start.line - 1, range.start.column) ∧
        m.last = (range.stop.line - 1, range.stop.column + 1) ∧
        m.text.toList = (joined v.lines).extract (offset v.lines m.first) (offset v.lines m.last) := by
  obtain ⟨v, locator, hbuild, hlines, hmarks⟩ := build_of_rangesOf text h
  refine ⟨v, hbuild, hlines, by rw [hmarks, List.length_map], fun i range hrange hinside => ?_⟩
  have hpos := hinside.start_pos
  have hle := hinside.start_le_stop
  have hstop := hinside.stop_le
  refine ⟨.ofRange v.lines locator range, by rw [hmarks, List.getElem?_map, hrange]; rfl, rfl, rfl, ?_⟩
  rw [SourceMark.text_ofRange, String.toList_ofList]
  refine SourceMark.textBetween_eq_extract (Nat.sub_le_sub_right hle 1) ?_ hinside.start_column hinside.stop_column ?_
  · dsimp only
    omega
  · intro hsame
    dsimp only at hsame
    exact hinside.columns (by omega)

/-- A request for a source with one range. -/
def requestOf (range : AnnotationRange) : SourceRequest where
  path := "f"
  address := ""
  link := ""
  startLine := 0
  endLine := 0
  ranges := some ("[\x7b\"start\":\x7b\"line\":" ++ Nat.repr range.start.line ++ ",\"ch\":" ++ Nat.repr range.start.column ++
    "\x7d,\"end\":\x7b\"line\":" ++ Nat.repr range.stop.line ++ ",\"ch\":" ++ Nat.repr range.stop.column ++ "\x7d\x7d]")
  locator := none

/-- From the last character of the first line to the first one of the third. -/
def acrossLines : AnnotationRange := { start := ⟨1, 4⟩, stop := ⟨3, 0⟩ }

/-- The text from the first line to the third is that between the offsets 4 and 10. -/
theorem marks_eq_extract_acrossLines :
    rangesOf (requestOf acrossLines) = .ok [acrossLines] ∧ acrossLines.Inside (Text.lines "a = é\nbb\nc d") ∧
    ∃ v m, build "a = é\nbb\nc d" (requestOf acrossLines) = .ok v ∧ v.marks[0]? = some m ∧
      m.text.toList = (joined v.lines).extract 4 10 ∧ m.text = "é\nbb\nc" := by
  have hranges : rangesOf (requestOf acrossLines) = .ok [acrossLines] := by decide +kernel
  have hinside : acrossLines.Inside (Text.lines "a = é\nbb\nc d") :=
    ⟨by decide, by decide, by decide +kernel, by decide +kernel, by decide +kernel, by decide⟩
  obtain ⟨v, hbuild, hlines, -, hmarks⟩ := marks_eq_extract "a = é\nbb\nc d" hranges
  obtain ⟨m, hm, hfirst, hlast, htext⟩ := hmarks 0 acrossLines rfl (hlines ▸ hinside)
  have hoffsets : offset v.lines m.first = 4 ∧ offset v.lines m.last = 10 := by
    rw [hfirst, hlast, hlines]
    decide +kernel
  rw [hoffsets.1, hoffsets.2] at htext
  refine ⟨hranges, hinside, v, m, hbuild, hm, htext, String.toList_inj.1 (htext.trans ?_)⟩
  rw [hlines]
  decide +kernel

/-- **The text of a mark is bounded by the source**, as far as its lines are in it. The mark of a range has no more
characters than the joined lines if the range is on one line, or if both its lines are in the source, whichever comes
first and whatever the columns are. Whatever the lines are, its text is made of characters of the joined lines and at
most one line feed for each line behind the end of the source that is asked for. -/
theorem marks_bounded (text : String) (h : rangesOf r = .ok ranges) :
    ∃ v, build text r = .ok v ∧ v.lines = Text.lines text ∧ v.marks.length = ranges.length ∧
      ∀ (i : Nat) (range : AnnotationRange) (m : SourceMark), ranges[i]? = some range → v.marks[i]? = some m →
        (range.start.line = range.stop.line ∨
            range.start.line ≤ v.lines.length ∧ range.stop.line ≤ v.lines.length →
          m.text.length ≤ (joined v.lines).length) ∧
        m.text.toList.Subperm (joined v.lines ++
          List.replicate (max range.start.line range.stop.line - v.lines.length) '\n') := by
  obtain ⟨v, locator, hbuild, hlines, hmarks⟩ := build_of_rangesOf text h
  refine ⟨v, hbuild, hlines, by rw [hmarks, List.length_map], fun i range m hrange hm => ?_⟩
  rw [hmarks, List.getElem?_map, hrange] at hm
  obtain rfl := Option.some.inj hm
  rw [← String.length_toList, SourceMark.text_ofRange, String.toList_ofList]
  refine ⟨?bounded, ?made⟩
  case bounded =>
    rintro (hsame | ⟨hstart, hstop⟩)
    · exact (SourceMark.textBetween_sublist_of_eq (by rw [hsame])).length_le
    · by_cases he : range.start.line - 1 = range.stop.line - 1
      · exact (SourceMark.textBetween_sublist_of_eq he).length_le
      · exact (SourceMark.textBetween_subperm (by dsimp only; omega) (by dsimp only; omega)).length_le
  case made =>
    by_cases he : range.start.line - 1 = range.stop.line - 1
    · exact ((SourceMark.textBetween_sublist_of_eq he).trans (List.sublist_append_left _ _)).subperm
    · exact SourceMark.textBetween_subperm_append (by dsimp only; omega) (by dsimp only; omega)

/-- From the second line back to the first. -/
def backwards : AnnotationRange := { start := ⟨2, 0⟩, stop := ⟨1, 7⟩ }

/-- The text of a range with its lines the other way round, all of both, is as long as the source. -/
theorem marks_bounded_backwards :
    rangesOf (requestOf backwards) = .ok [backwards] ∧
    ∃ v m, build "call\nend do" (requestOf backwards) = .ok v ∧ v.marks[0]? = some m ∧
      m.text = "end do\ncall" ∧ m.text.length ≤ (joined v.lines).length := by
  have hranges : rangesOf (requestOf backwards) = .ok [backwards] := by decide +kernel
  obtain ⟨v, hbuild, hlines, -, hmarks⟩ := marks_bounded "call\nend do" hranges
  obtain ⟨v', locator, hbuild', -, hmarks'⟩ := build_of_rangesOf "call\nend do" hranges
  cases hbuild.symm.trans hbuild'
  have hm : v.marks[0]? = some (.ofRange v.lines locator backwards) := by
    rw [hmarks']
    rfl
  have htext : (SourceMark.ofRange v.lines locator backwards).text = "end do\ncall" := by
    rw [SourceMark.text_ofRange, hlines]
    decide +kernel
  have hthere : backwards.start.line ≤ v.lines.length ∧ backwards.stop.line ≤ v.lines.length := by
    rw [hlines]
    decide +kernel
  exact ⟨hranges, v, _, hbuild, hm, htext, (hmarks 0 backwards _ rfl hm).1 (Or.inr hthere)⟩

/-- From the only line of a source to the third line. -/
def behindEnd : AnnotationRange := { start := ⟨1, 0⟩, stop := ⟨3, 0⟩ }

/-- The text of a mark can be longer than the source: there are two lines too few. -/
theorem marks_not_bounded_behindEnd :
    rangesOf (requestOf behindEnd) = .ok [behindEnd] ∧
    ∃ v m, build "a" (requestOf behindEnd) = .ok v ∧ v.marks[0]? = some m ∧ m.text = "a\n\n" ∧
      (joined v.lines).length < m.text.length := by
  have hranges : rangesOf (requestOf behindEnd) = .ok [behindEnd] := by decide +kernel
  obtain ⟨v, locator, hbuild, hlines, hmarks⟩ := build_of_rangesOf "a" hranges
  have htext : (SourceMark.ofRange v.lines locator behindEnd).text = "a\n\n" := by
    rw [SourceMark.text_ofRange, hlines]
    decide +kernel
  refine ⟨hranges, v, _, hbuild, by rw [hmarks]; rfl, htext, ?_⟩
  rw [htext, hlines]
  decide +kernel

end SourceView

end LoopSurvey
