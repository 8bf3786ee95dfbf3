import LoopSurvey.Proofs.Viewer.Judging
import LoopSurvey.Proofs.Viewer.SourceText
/-!
# Scrolling a source

A source pane is within its end if it is scrolled no further than its last lines (`SourcePane.Within`). The keys that
move bring it there from everywhere (`SourcePane.within_move`), and so does following a mark. Two ways to scroll do
not look at the end: a text that arrives is scrolled to the first line of its node (`SourcePane.Arrived`), and the next
mark to the middle of the pane. So the pane stays within its end just if that line and all marks are
(`SourcePane.within_pressAll_iff`), and beyond its end the keys that move down move it up
(`SourcePane.scroll_move_lt_iff`).
-/

namespace LoopSurvey

/-- A view begins at the first line of the node, or at the top. -/
theorem SourceView.scrollTo_of_build {text : String} {r : SourceRequest} {view : SourceView}
    (h : build text r = .ok view) : view.scrollTo.getD 0 = r.startLine - 1 := by
  unfold build at h
  obtain ⟨ranges, -, hview⟩ := bind_eq_ok.1 h
  obtain rfl := pure_eq_ok.1 hview
  dsimp only
  split_ifs with hline
  · rfl
  · rw [Nat.eq_zero_of_not_pos hline]
    rfl

/-- The keys that scroll the source pane. -/
def Key.scrolls (key : Key) : Bool := key.motion?.isSome || key = .tab || key = .enter

/-- The moves towards the end. -/
def Motion.isDown : Motion → Bool
  | .down | .pageDown => true
  | _ => false

/-! ## The pane -/

namespace SourcePane

variable {p : SourcePane} {i j : Nat} {m : SourceMark}

/-- The pane is not scrolled beyond its end. -/
def Within (p : SourcePane) : Prop := p.scroll ≤ p.maxScroll

instance : Decidable p.Within := inferInstanceAs (Decidable (_ ≤ _))

/-- Follows the mark that is looked at if it leads to a line of the text. -/
def follow (p : SourcePane) : SourcePane :=
  match p.focusedMark?.map SourceMark.action with
  | some (.scrollTo line _) => { p with scroll := min line p.maxScroll }
  | _ => p

/-- The pane after a key that scrolls it. -/
def press (p : SourcePane) (key : Key) : SourcePane :=
  match key.motion? with
  | some m => p.move m
  | none => if key = .tab then p.focusNext else if key = .enter then p.follow else p

/-- The pane after keys that scroll it, each pressed at its time. -/
def pressAll (p : SourcePane) (keys : List (Nat × Key)) : SourcePane := keys.foldl (fun p k => p.press k.2) p

theorem pressAll_append (keys keys' : List (Nat × Key)) :
    p.pressAll (keys ++ keys') = (p.pressAll keys).pressAll keys' := List.foldl_append

theorem move_eq (p : SourcePane) (m : Motion) : ∃ scroll, p.move m = { p with scroll } := by
  cases m <;> exact ⟨_, rfl⟩

/-- Every move ends within the end, wherever it begins. -/
theorem within_move (p : SourcePane) (m : Motion) : (p.move m).Within := by
  cases m with
  | first => exact Nat.zero_le _
  | last => exact Nat.le_refl _
  | down | up | pageDown | pageUp => exact Nat.min_le_right _ _

/-- Down goes up from beyond the end, and from nowhere else. -/
theorem scroll_move_lt_iff {m : Motion} (h : m.isDown = true) : (p.move m).scroll < p.scroll ↔ ¬p.Within := by
  have hby (n : Nat) : (p.scrollBy n).scroll < p.scroll ↔ p.maxScroll < p.scroll := by
    show min ((p.scroll : Int) + n).toNat p.maxScroll < p.scroll ↔ p.maxScroll < p.scroll
    omega
  rw [Within, Nat.not_le]
  cases m with
  | down => exact hby 1
  | pageDown => exact hby (page p.height)
  | up | pageUp | first | last => exact absurd h Bool.false_ne_true

theorem follow_eq (p : SourcePane) : p.follow = p ∨ ∃ line, p.follow = { p with scroll := min line p.maxScroll } := by
  unfold follow
  split
  · exact Or.inr ⟨_, rfl⟩
  · exact Or.inl rfl

theorem Within.follow (h : p.Within) : p.follow.Within := by
  rcases p.follow_eq with he | ⟨line, he⟩
  · rwa [he]
  · rw [he]
    exact Nat.min_le_right _ _

/-! ### The next mark -/

theorem focusNext_of_nextMark? (hi : p.nextMark? = some i) (hm : p.marks[i]? = some m) :
    p.focusNext = { p with focused := some i, scroll := m.first.1 - p.height / 2 } := by
  have hfocused : ({ p with focused := p.nextMark? } : SourcePane).focusedMark? = some m := by
    rw [hi]
    exact hm
  unfold focusNext
  dsimp only
  rw [hfocused, hi]

theorem focusNext_of_marks_eq_nil (h : p.marks = []) : p.focusNext = { p with focused := none } := by
  have hnext : p.nextMark? = none := by rw [nextMark?, h, List.isEmpty_nil, if_pos rfl]
  unfold focusNext
  rw [hnext]
  rfl

/-- There is a next mark unless there are none at all. -/
theorem exists_nextMark? (h : p.marks ≠ []) : ∃ i m, p.nextMark? = some i ∧ p.marks[i]? = some m := by
  have hsome : p.nextMark?.isSome = true := by
    rw [nextMark?, if_neg (by rwa [List.isEmpty_iff])]
    split <;> rfl
  obtain ⟨i, hi⟩ := Option.isSome_iff_exists.1 hsome
  exact ⟨i, _, hi, List.getElem?_eq_getElem (lt_of_nextMark? hi)⟩

theorem focusNext_eq (p : SourcePane) : ∃ focused scroll, p.focusNext = { p with focused, scroll } ∧
    (scroll = p.scroll ∨ ∃ m ∈ p.marks, scroll = m.first.1 - p.height / 2) := by
  by_cases hmarks : p.marks = []
  · exact ⟨none, p.scroll, focusNext_of_marks_eq_nil hmarks, Or.inl rfl⟩
  · obtain ⟨i, m, hi, hm⟩ := exists_nextMark? hmarks
    exact ⟨some i, _, focusNext_of_nextMark? hi hm, Or.inr ⟨m, List.mem_of_getElem? hm, rfl⟩⟩

/-- The key for the next mark, pressed again and again, goes round the marks. -/
theorem pressAll_tab (hi : p.nextMark? = some i) (k : Nat) : ∃ m, p.marks[(i + k) % p.marks.length]? = some m ∧
    p.pressAll (List.replicate (k + 1) (0, .tab)) =
      { p with focused := some ((i + k) % p.marks.length), scroll := m.first.1 - p.height / 2 } := by
  have hlt : i < p.marks.length := lt_of_nextMark? hi
  induction k with
  | zero =>
    rw [Nat.add_zero, Nat.mod_eq_of_lt hlt]
    have hm : p.marks[i]? = some p.marks[i] := List.getElem?_eq_getElem hlt
    exact ⟨_, hm, focusNext_of_nextMark? hi hm⟩
  | succ k ih =>
    obtain ⟨m, -, he⟩ := ih
    rw [List.replicate_succ', pressAll_append, he]
    have hnext : ({ p with focused := some ((i + k) % p.marks.length), scroll := m.first.1 - p.height / 2 } :
        SourcePane).nextMark? = some ((i + (k + 1)) % p.marks.length) := by
      have hne : p.marks.isEmpty = false := by
        rw [List.isEmpty_eq_false_iff, ← List.length_pos_iff]
        omega
      have hround : ((i + k) % p.marks.length + 1) % p.marks.length = (i + (k + 1)) % p.marks.length :=
        Nat.mod_add_mod ..
      rw [← hround]
      unfold nextMark?
      exact if_neg (Bool.eq_false_iff.1 hne)
    have hm := List.getElem?_eq_getElem (l := p.marks) (Nat.mod_lt (i + (k + 1)) (Nat.zero_lt_of_lt hlt))
    exact ⟨_, hm, focusNext_of_nextMark? hnext hm⟩

/-- Every mark comes to the middle of the pane at some time. -/
theorem exists_pressAll_tab (hj : p.marks[j]? = some m) :
    ∃ n, (p.pressAll (List.replicate n (0, .tab))).scroll = m.first.1 - p.height / 2 := by
  obtain ⟨hlt, -⟩ := List.getElem?_eq_some_iff.1 hj
  obtain ⟨i, -, hi, -⟩ := exists_nextMark? (List.ne_nil_of_length_pos (Nat.zero_lt_of_lt hlt))
  have hround : (i + (j + (p.marks.length - i))) % p.marks.length = j := by
    have hsum : i + (j + (p.marks.length - i)) = j + p.marks.length := by
      have := lt_of_nextMark? hi
      omega
    rw [hsum, Nat.add_mod_right, Nat.mod_eq_of_lt hlt]
  obtain ⟨m', hm', he⟩ := pressAll_tab hi (j + (p.marks.length - i))
  rw [hround] at hm'
  obtain rfl : m' = m := Option.some.inj (hm'.symm.trans hj)
  exact ⟨_, congrArg scroll he⟩

/-! ### One key and many -/

theorem press_eq (p : SourcePane) (key : Key) : ∃ focused scroll, p.press key = { p with focused, scroll } := by
  unfold press
  split
  · next m _ =>
    obtain ⟨scroll, he⟩ := p.move_eq m
    exact ⟨p.focused, scroll, he⟩
  · split_ifs
    · obtain ⟨focused, scroll, he, -⟩ := p.focusNext_eq
      exact ⟨focused, scroll, he⟩
    · rcases p.follow_eq with he | ⟨line, he⟩
      · exact ⟨p.focused, p.scroll, he⟩
      · exact ⟨p.focused, _, he⟩
    · exact ⟨p.focused, p.scroll, rfl⟩

/-- Keys that scroll leave the text and the height alone. -/
theorem pressAll_eq (p : SourcePane) (keys : List (Nat × Key)) :
    ∃ focused scroll, p.pressAll keys = { p with focused, scroll } := by
  induction keys generalizing p with
  | nil => exact ⟨p.focused, p.scroll, rfl⟩
  | cons k keys ih =>
    obtain ⟨focused, scroll, he⟩ := p.press_eq k.2
    obtain ⟨focused', scroll', he'⟩ := ih (p.press k.2)
    exact ⟨focused', scroll', he'.trans (by rw [he])⟩

/-- All marks can come to the middle within the end. -/
def MarksWithin (p : SourcePane) : Prop := ∀ m ∈ p.marks, m.first.1 - p.height / 2 ≤ p.maxScroll

theorem Within.press (h : p.Within) (hm : p.MarksWithin) (key : Key) : (p.press key).Within := by
  unfold SourcePane.press
  split
  · exact p.within_move _
  · split_ifs
    · obtain ⟨focused, scroll, he, hscroll | ⟨m, hmem, hscroll⟩⟩ := p.focusNext_eq
      · rw [he, hscroll]
        exact h
      · rw [he, hscroll]
        exact hm m hmem
    · exact h.follow
    · exact h

theorem Within.pressAll (h : p.Within) (hm : p.MarksWithin) (keys : List (Nat × Key)) : (p.pressAll keys).Within := by
  induction keys generalizing p with
  | nil => exact h
  | cons k keys ih =>
    have hmarks : (p.press k.2).MarksWithin := by
      obtain ⟨focused, scroll, he⟩ := p.press_eq k.2
      rw [he]
      exact hm
    exact ih (h.press hm k.2) hmarks

/-- Keys that scroll never leave the end behind just if the pane is within its end and its marks are. -/
theorem within_pressAll_iff :
    (∀ keys : List (Nat × Key), (∀ k ∈ keys, k.2.scrolls = true) → (p.pressAll keys).Within) ↔
      p.Within ∧ p.MarksWithin := by
  constructor
  · intro h
    refine ⟨h [] fun _ hk => absurd hk List.not_mem_nil, fun m hm => ?_⟩
    obtain ⟨j, hj⟩ := List.mem_iff_getElem?.1 hm
    obtain ⟨n, hn⟩ := exists_pressAll_tab hj
    have hwithin := h (List.replicate n (0, .tab)) fun k hk => by rw [List.eq_of_mem_replicate hk]; rfl
    obtain ⟨focused, scroll, he⟩ := p.pressAll_eq (List.replicate n (0, .tab))
    rw [Within, hn, he] at hwithin
    exact hwithin
  · rintro ⟨h, hm⟩ keys -
    exact h.pressAll hm keys

/-! ### The text that arrives -/

/-- A text has arrived for the pane, which is scrolled to the first line of the node. -/
def Arrived (texts : List Arrival) (p : SourcePane) : Prop :=
  ∃ text view, .loaded p.request text ∈ texts ∧ SourceView.build text p.request = .ok view ∧
    p.view = some view ∧ p.scroll = p.request.startLine - 1

end SourcePane

namespace Viewer

variable {v : Viewer} {p : SourcePane}

/-- A pane is as it was before an arrival, or the arrival is its text. -/
theorem source_receive {arrival : Arrival} (h : (v.receive arrival).source = some p) :
    (v.source = some p ∧ ∀ text, arrival ≠ .loaded p.request text) ∨ p.Arrived [arrival] := by
  refine (source_receive_cases h).imp_right ?_
  rintro ⟨before, text, view, -, rfl, hb, rfl⟩
  exact ⟨text, view, List.mem_singleton_self _, hb, rfl, SourceView.scrollTo_of_build hb⟩

/-- A pane that is open after its text has arrived, among whatever else, shows it from the line of its node on. -/
theorem arrived_of_foldl_receive {arrivals : List Arrival} {text : String}
    (h : (arrivals.foldl receive v).source = some p) (ha : .loaded p.request text ∈ arrivals) : p.Arrived arrivals := by
  induction arrivals using List.reverseRecOn with
  | nil => exact absurd ha List.not_mem_nil
  | append_singleton arrivals arrival ih =>
    rw [List.foldl_concat] at h
    rcases source_receive h with ⟨hsource, hne⟩ | ⟨text', view, hmem, hshown⟩
    · have hbefore : .loaded p.request text ∈ arrivals :=
        (List.mem_append.1 ha).resolve_right fun hlast => hne text (List.mem_singleton.1 hlast).symm
      obtain ⟨text', view, hmem, hshown⟩ := ih hsource hbefore
      exact ⟨text', view, List.mem_append_left _ hmem, hshown⟩
    · exact ⟨text', view, List.mem_append_right _ hmem, hshown⟩

theorem source_tick (v : Viewer) (now : Nat) (arrivals : List Arrival) :
    (v.tick now arrivals).source = (arrivals.foldl receive (v.fireDue now)).source := by
  show ((arrivals.foldl receive (v.fireDue now)).showAlert).source = _
  unfold showAlert
  split_ifs
  · obtain ⟨dialog, alerts, he⟩ := nextDialog_eq (v := arrivals.foldl receive (v.fireDue now))
    rw [he]
  · rfl

/-! ## The keys of the pane -/

/-- A source pane is open, and keys go to it. -/
structure Browses (v : Viewer) (p : SourcePane) : Prop where
  help_eq : v.help.shown = false
  dialog_eq : v.dialog = none
  mode_ne : v.mode ≠ .editing
  textTree_eq : v.textTree = none
  source_eq : v.source = some p

/-- The viewer after keys, each pressed at its time. -/
def pressAll (v : Viewer) (keys : List (Nat × Key)) : Viewer := v.run (keys.map fun k => .key k.1 k.2)

theorem followMark_eq_follow (h : v.source = some p) :
    ∃ notice, v.followMark p = { v with source := some p.follow, notice } := by
  have hopen : { v with source := some p } = v := by rw [← h]
  unfold followMark SourcePane.follow
  cases p.focusedMark?.map SourceMark.action with
  | none => exact ⟨v.notice, hopen.symm⟩
  | some action =>
    cases action with
    | scrollTo line title => exact ⟨v.notice, rfl⟩
    | definitionLink link title =>
      exact ⟨_, congrArg (say · (if link = "" then title else link)) hopen.symm⟩
    | guess type => exact ⟨_, congrArg (say · type.title) hopen.symm⟩

theorem pressSource?_of_scrolls (h : v.source = some p) {key : Key} (hkey : key.scrolls = true) :
    ∃ notice, v.pressSource? p key = some { v with source := some (p.press key), notice } := by
  unfold Key.scrolls at hkey
  unfold pressSource? SourcePane.press
  cases hm : key.motion? with
  | some m => exact ⟨v.notice, rfl⟩
  | none =>
    rw [hm, Option.isSome_none, Bool.false_or, Bool.or_eq_true, decide_eq_true_eq, decide_eq_true_eq] at hkey
    rcases hkey with rfl | rfl
    · exact ⟨v.notice, rfl⟩
    · obtain ⟨notice, he⟩ := followMark_eq_follow h
      exact ⟨notice, congrArg some he⟩

theorem Browses.press (h : v.Browses p) {key : Key} (hkey : key.scrolls = true) (now : Nat) :
    (v.press now key).Browses (p.press key) := by
  obtain ⟨notice, hpane⟩ := pressSource?_of_scrolls h.source_eq hkey
  have hpress : v.press now key = { v with source := some (p.press key), notice } := by
    unfold Viewer.press
    simp [h.help_eq, h.dialog_eq, h.mode_ne, h.textTree_eq, h.source_eq, hpane]
  rw [hpress]
  exact ⟨h.help_eq, h.dialog_eq, h.mode_ne, h.textTree_eq, rfl⟩

theorem Browses.pressAll (h : v.Browses p) {keys : List (Nat × Key)} (hkeys : ∀ k ∈ keys, k.2.scrolls = true) :
    (v.pressAll keys).Browses (p.pressAll keys) := by
  induction keys generalizing v p with
  | nil => exact h
  | cons k keys ih =>
    have hk : k.2.scrolls = true := hkeys k List.mem_cons_self
    exact ih (h.press hk k.1) fun k' hk' => hkeys k' (List.mem_cons_of_mem _ hk')

end Viewer

/-! ## From the text that arrives to the last key -/

namespace Sample

/-- A loop in the second line of its source, with an annotated name in the third. -/
def innerLoop : Node :=
  { Viewer.annotatedLoop with
    payload := {
      path := some "f", startLine := some 2
      ranges := some "[\x7b\"start\":\x7b\"line\":3,\"ch\":1\x7d,\"end\":\x7b\"line\":3,\"ch\":1\x7d\x7d]" } }

/-- The source of the loop. -/
def innerRequest : SourceRequest :=
  { Viewer.annotatedRequest with startLine := 2, ranges := innerLoop.payload.ranges }

/-- The source is opened on a screen of some height. -/
def opened (height : Nat) : Viewer :=
  (Viewer.start {} { outline := { forest := .cons innerLoop .nil .nil, nodup := by decide } }).live
    [.event (.key 0 (.char 'O')), .frame 80 height]

/-- The four lines of the source. -/
def innerText : List Arrival := [.loaded innerRequest "do i\ndo j\nj = i\nend"]

end Sample

namespace Viewer

open Sample (innerRequest innerText opened)

/-- **Scrolling within the end of a source.** When the text of a source pane has arrived, the pane is scrolled to the
first line of the node. The keys that scroll keep its text and its height, and they keep it within its end just if
that line is within the end, and so are all marks when they are in the middle. From beyond the end, and from nowhere
else, the keys that move down move it up. -/
theorem scrolled_within_iff (v : Viewer) (now : Nat) (arrivals : List Arrival) {p : SourcePane}
    (hp : (v.tick now arrivals).source = some p) (ha : ∃ text, .loaded p.request text ∈ arrivals) :
    let w := v.tick now arrivals
    let line := p.request.startLine - 1
    ∃ text view, .loaded p.request text ∈ arrivals ∧ SourceView.build text p.request = .ok view ∧
      p.view = some view ∧ p.scroll = line ∧
      (w.Browses p →
        (∀ keys : List (Nat × Key), (∀ k ∈ keys, k.2.scrolls = true) →
          (w.pressAll keys).source = some (p.pressAll keys) ∧
          (p.pressAll keys).view = some view ∧ (p.pressAll keys).height = p.height ∧
          ∀ now key m, key.motion? = some m → m.isDown = true →
            ((p.pressAll (keys ++ [(now, key)])).scroll < (p.pressAll keys).scroll ↔ ¬(p.pressAll keys).Within)) ∧
        ((∀ keys : List (Nat × Key), (∀ k ∈ keys, k.2.scrolls = true) → (p.pressAll keys).Within) ↔
          line ≤ lastScroll view.lines.length p.height ∧
          ∀ m ∈ view.marks, m.first.1 - p.height / 2 ≤ lastScroll view.lines.length p.height)) := by
  intro w line
  obtain ⟨text, view, hloaded, hbuild, hview, hscroll⟩ : p.Arrived arrivals := by
    obtain ⟨text, ha⟩ := ha
    exact arrived_of_foldl_receive ((source_tick ..).symm.trans hp) ha
  have hend : p.maxScroll = lastScroll view.lines.length p.height := by
    unfold SourcePane.maxScroll
    rw [hview]
    rfl
  refine ⟨text, view, hloaded, hbuild, hview, hscroll, fun hw => ⟨fun keys hkeys => ?_, ?_⟩⟩
  · obtain ⟨focused, scroll, he⟩ := p.pressAll_eq keys
    refine ⟨(hw.pressAll hkeys).source_eq, by rw [he]; exact hview, by rw [he], fun now key m hm hdown => ?_⟩
    have hmove : p.pressAll (keys ++ [(now, key)]) = (p.pressAll keys).move m := by
      rw [SourcePane.pressAll_append]
      show (p.pressAll keys).press key = _
      unfold SourcePane.press
      rw [hm]
    rw [hmove, SourcePane.scroll_move_lt_iff hdown]
  · rw [SourcePane.within_pressAll_iff, SourcePane.Within, SourcePane.MarksWithin, hscroll, hend,
      SourcePane.marks_of_view hview]

/-- Where the pane shows two of the four lines, it is always within its end. -/
theorem scrolled_within_iff_inner :
    let w := (opened 6).tick 10 innerText
    ∃ p, w.source = some p ∧ (∃ text, .loaded p.request text ∈ innerText) ∧ w.Browses p ∧ p.scroll = 1 ∧
      ∀ keys : List (Nat × Key), (∀ k ∈ keys, k.2.scrolls = true) → (p.pressAll keys).Within := by
  intro w
  have hopen : w.source.map (·.request) = some innerRequest := by decide +kernel
  obtain ⟨p, hp, hrequest⟩ := Option.map_eq_some_iff.1 hopen
  have hloaded : ∃ text, .loaded p.request text ∈ innerText := by
    rw [hrequest]
    exact ⟨_, List.mem_singleton_self _⟩
  have hbrowses : w.Browses p := by
    have hfree : w.help.shown = false ∧ w.dialog = none ∧ w.mode ≠ .editing ∧ w.textTree = none := by decide +kernel
    exact ⟨hfree.1, hfree.2.1, hfree.2.2.1, hfree.2.2.2, hp⟩
  obtain ⟨text, view, -, -, hview, hscroll, hkeys⟩ := scrolled_within_iff (opened 6) 10 innerText hp hloaded
  have hend : w.source.all (fun p => p.view.all fun view => decide
      (p.request.startLine - 1 ≤ lastScroll view.lines.length p.height ∧
        ∀ m ∈ view.marks, m.first.1 - p.height / 2 ≤ lastScroll view.lines.length p.height)) = true := by
    decide +kernel
  rw [hp, Option.all_some, hview, Option.all_some] at hend
  rw [hrequest] at hscroll
  exact ⟨p, hp, hloaded, hbrowses, hscroll, (hkeys hbrowses).2.2 (of_decide_eq_true hend)⟩

/-- Where the pane has room for all lines, it still begins at the second one, beyond its end, and down goes up. -/
theorem down_goes_up_inner :
    let w := (opened 24).tick 10 innerText
    w.source.map (fun p => (p.scroll, p.maxScroll)) = some (1, 0) ∧
      (w.press 20 .down).source.map (fun p => (p.scroll, p.maxScroll)) = some (0, 0) := by
  decide +kernel

end Viewer

end LoopSurvey
