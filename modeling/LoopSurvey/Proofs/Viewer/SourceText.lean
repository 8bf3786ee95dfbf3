import LoopSurvey.Proofs.Source.Marks
import LoopSurvey.Proofs.Viewer.Alerts
import LoopSurvey.Sample.Pair
/-!
# Texts in the source pane

A source is asked for when its pane opens, and its text arrives at some later time, perhaps more than once, and
perhaps when the pane is closed already or shows the source of another node. The pane shows no text but one that was
loaded for its own request, and a mark that is looked at is one of its marks (`SourcePane.Sound`). Keys for the pane
and texts that arrive for it keep that: a text that is loaded again has as many marks as the one before
(`SourceView.length_marks_eq`). All other keys leave the pane alone, close it, or open a fresh one, so every pane of
a run shows what has arrived in the run (`view_eq_build`).
-/

namespace LoopSurvey

/-- A view has one mark for each range of its request. -/
theorem SourceView.length_marks {text : String} {r : SourceRequest} {view : SourceView}
    (h : build text r = .ok view) : ∃ ranges, rangesOf r = .ok ranges ∧ view.marks.length = ranges.length := by
  obtain ⟨ranges, hranges, -, hmarks, -⟩ := eq_of_build h
  exact ⟨ranges, hranges, by rw [hmarks, List.length_map]⟩

/-- All texts have equally many marks for one request. -/
theorem SourceView.length_marks_eq {text text' : String} {r : SourceRequest} {view view' : SourceView}
    (h : build text r = .ok view) (h' : build text' r = .ok view') : view.marks.length = view'.marks.length := by
  obtain ⟨ranges, hranges, hlength⟩ := length_marks h
  obtain ⟨ranges', hranges', hlength'⟩ := length_marks h'
  obtain rfl : ranges = ranges' := Except.ok.inj (hranges.symm.trans hranges')
  exact hlength.trans hlength'.symm

/-- What arrives with an event. -/
def ViewerEvent.arrivals : ViewerEvent → List Arrival
  | .key .. => []
  | .tick _ arrivals => arrivals

/-! ## The pane -/

namespace SourcePane

variable {loaded loaded' : SourceRequest → String → Prop} {p : SourcePane}

/-- A text that is shown was loaded for the request of the pane, and a mark that is looked at is there. -/
structure Sound (loaded : SourceRequest → String → Prop) (p : SourcePane) : Prop where
  built : ∀ view, p.view = some view →
    ∃ text, loaded p.request text ∧ SourceView.build text p.request = .ok view
  focused_lt : ∀ i, p.focused = some i → i < p.marks.length

theorem marks_of_view {view : SourceView} (h : p.view = some view) : p.marks = view.marks := by
  unfold marks
  rw [h]
  rfl

theorem marks_of_view_eq_none (h : p.view = none) : p.marks = [] := by
  unfold marks
  rw [h]
  rfl

theorem sound_fresh (request : SourceRequest) : ({ request } : SourcePane).Sound loaded where
  built _ hv := nomatch hv
  focused_lt _ hi := nomatch hi

/-- It does not matter where the pane is scrolled to. -/
theorem Sound.scroll (h : p.Sound loaded) (scroll : Nat) : ({ p with scroll } : SourcePane).Sound loaded :=
  ⟨h.built, h.focused_lt⟩

theorem Sound.move (h : p.Sound loaded) (m : Motion) : (p.move m).Sound loaded := by
  cases m <;> exact h.scroll _

theorem lt_of_nextMark? {i : Nat} (h : p.nextMark? = some i) : i < p.marks.length := by
  unfold nextMark? at h
  split_ifs at h with hempty
  have hpos : 0 < p.marks.length := by
    rw [List.isEmpty_iff] at hempty
    exact List.length_pos_iff.2 hempty
  split at h
  · obtain rfl := Option.some.inj h
    exact hpos
  · obtain rfl := Option.some.inj h
    exact Nat.mod_lt _ hpos

theorem Sound.focusNext (h : p.Sound loaded) : p.focusNext.Sound loaded := by
  have hnext : ({ p with focused := p.nextMark? } : SourcePane).Sound loaded :=
    ⟨h.built, fun _ hi => lt_of_nextMark? (p := p) hi⟩
  unfold SourcePane.focusNext
  dsimp only
  split
  · exact hnext.scroll _
  · exact hnext

/-- A text for the request is shown in place of any other, and the mark that is looked at stays. -/
theorem Sound.load (h : p.Sound loaded) {text : String} {view : SourceView} (hl : loaded p.request text)
    (hb : SourceView.build text p.request = .ok view) (scroll : Nat) :
    ({ p with view := some view, scroll } : SourcePane).Sound loaded where
  built view' hv := by
    obtain rfl := Option.some.inj hv
    exact ⟨text, hl, hb⟩
  focused_lt i hi := by
    have hlt : i < p.marks.length := h.focused_lt i hi
    cases hp : p.view with
    | none =>
      rw [marks_of_view_eq_none hp] at hlt
      exact absurd hlt (Nat.not_lt_zero i)
    | some before =>
      -- the marks are those of the request, which both texts were loaded for
      obtain ⟨text', -, hb'⟩ := h.built before hp
      rw [marks_of_view hp, SourceView.length_marks_eq hb' hb] at hlt
      exact hlt

end SourcePane

/-! ## Keys and arrivals -/

namespace Viewer

variable {loaded : SourceRequest → String → Prop} {v v' : Viewer}

/-- The source pane, if it is open, shows what was loaded for it. -/
def Faithful (loaded : SourceRequest → String → Prop) (v : Viewer) : Prop :=
  ∀ p, v.source = some p → p.Sound loaded

theorem faithful_of_none (h : v.source = none) : v.Faithful loaded :=
  fun _ hp => nomatch h.symm.trans hp

theorem faithful_of_some {p : SourcePane} (h : v.source = some p) (hp : p.Sound loaded) : v.Faithful loaded := by
  intro p' hp'
  obtain rfl : p = p' := Option.some.inj (h.symm.trans hp')
  exact hp

theorem Faithful.congr (h : v.Faithful loaded) (hs : v'.source = v.source) : v'.Faithful loaded :=
  fun p hp => h p (hs.symm.trans hp)

theorem Faithful.of_aside_eq (h : v.Faithful loaded) (ha : v'.aside = v.aside) : v'.Faithful loaded :=
  h.congr (congrArg Aside.source ha)

theorem Faithful.of_opens (h : v.Faithful loaded) (ho : v.aside.Opens v'.aside) : v'.Faithful loaded := by
  rcases ho with ha | ⟨request, ha⟩
  · exact h.of_aside_eq ha
  · exact faithful_of_some (congrArg Aside.source ha) (SourcePane.sound_fresh request)

theorem Faithful.followMark (h : v.Faithful loaded) {pane : SourcePane} (hp : v.source = some pane) :
    (v.followMark pane).Faithful loaded := by
  unfold Viewer.followMark
  split
  · exact h
  · exact faithful_of_some rfl ((h pane hp).scroll _)
  · exact h
  · exact h

theorem Faithful.pressSource? (h : v.Faithful loaded) {pane : SourcePane} (hp : v.source = some pane) {key : Key}
    (hv : v.pressSource? pane key = some v') : v'.Faithful loaded := by
  have hpane : pane.Sound loaded := h pane hp
  unfold Viewer.pressSource? at hv
  split at hv
  · next m _ =>
    cases hv
    exact faithful_of_some rfl (hpane.move m)
  · split_ifs at hv <;> cases hv
    · exact faithful_of_none rfl
    · exact faithful_of_some rfl hpane.focusNext
    · exact h.followMark hp

theorem Faithful.nextDialog (h : v.Faithful loaded) : v.nextDialog.Faithful loaded := by
  obtain ⟨dialog, alerts, he⟩ := v.nextDialog_eq
  rw [he]
  exact h.congr rfl

/-- A pane that is open after an arrival was open before it. It is as it was, or a text for its own request has been
taken in: a source that cannot be had or viewed closes the pane. -/
theorem source_receive_cases {arrival : Arrival} {p : SourcePane} (h : (v.receive arrival).source = some p) :
    (v.source = some p ∧ ∀ text, arrival ≠ .loaded p.request text) ∨
    ∃ before text view, v.source = some before ∧ arrival = .loaded before.request text ∧
      SourceView.build text before.request = .ok view ∧
      p = { before with view := some view, scroll := view.scrollTo.getD 0 } := by
  cases arrival with
  | alert message => exact Or.inl ⟨h, fun _ ha => nomatch ha⟩
  | failed request =>
    unfold Viewer.receive at h
    dsimp only at h
    split_ifs at h
    · exact Or.inl ⟨h, fun _ ha => nomatch ha⟩
  | loaded request text =>
    unfold Viewer.receive receiveSource at h
    dsimp only at h
    split at h
    · next hnone =>
      refine Or.inl ⟨h, fun text' ha => ?_⟩
      obtain ⟨rfl, -⟩ := Arrival.loaded.inj ha
      rw [h, Option.filter_some, decide_eq_true rfl] at hnone
      exact absurd hnone (Option.some_ne_none p)
    · next before hbefore =>
      obtain ⟨hb, hrequest⟩ := Option.filter_eq_some_iff.1 hbefore
      obtain rfl : before.request = request := of_decide_eq_true hrequest
      split at h
      · next view hview => exact Or.inr ⟨before, text, view, hb, rfl, hview, (Option.some.inj h).symm⟩
      · exact absurd h (Option.some_ne_none p).symm

theorem Faithful.receive (h : v.Faithful loaded) {arrival : Arrival}
    (ha : ∀ request text, arrival = .loaded request text → loaded request text) :
    (v.receive arrival).Faithful loaded := by
  intro p hp
  rcases source_receive_cases hp with ⟨hsame, -⟩ | ⟨before, text, view, hbefore, hloaded, hb, rfl⟩
  · exact h p hsame
  · exact (h before hbefore).load (ha _ text hloaded) hb _

theorem Faithful.foldl_receive (h : v.Faithful loaded) {arrivals : List Arrival}
    (ha : ∀ request text, .loaded request text ∈ arrivals → loaded request text) :
    (arrivals.foldl Viewer.receive v).Faithful loaded := by
  induction arrivals generalizing v with
  | nil => exact h
  | cons arrival arrivals ih =>
    rw [List.foldl_cons]
    apply ih
    · apply h.receive
      rintro request text rfl
      exact ha request text List.mem_cons_self
    · exact fun request text hm => ha request text (List.mem_cons_of_mem _ hm)

theorem Faithful.showAlert (h : v.Faithful loaded) : v.showAlert.Faithful loaded := by
  unfold Viewer.showAlert
  split_ifs
  · exact h.nextDialog
  · exact h

theorem Faithful.receiveAll (h : v.Faithful loaded) {arrivals : List Arrival}
    (ha : ∀ request text, .loaded request text ∈ arrivals → loaded request text) :
    (v.receiveAll arrivals).Faithful loaded := (h.foldl_receive ha).showAlert

theorem Response.faithful {event : ViewerEvent} (hr : v.Response event v') (h : v.Faithful loaded)
    (ha : ∀ request text, .loaded request text ∈ event.arrivals → loaded request text) : v'.Faithful loaded := by
  cases hr with
  | helps | asks | reads => exact h.congr rfl
  | dismisses => exact Faithful.nextDialog (h.congr rfl)
  | closes now key hhelp hd halert he => exact (h.of_opens he.aside_opens).nextDialog
  | spells now key hhelp hd hm hs => exact h.of_opens hs.aside_opens
  | scrolls now key hhelp hd hp hpane => exact h.pressSource? hp hpane
  | moves now key hp hl => exact h.of_opens hl.aside_opens
  | performs now key hp hmotion hcommand he => exact h.of_opens he.aside_opens
  | waits now arrivals => exact h.receiveAll ha
  | fires now arrivals hdue hs => exact (h.of_opens hs.aside_opens).receiveAll ha

/-- Every key and every tick keeps the pane faithful to what has been loaded. -/
theorem Faithful.step (h : v.Faithful loaded) {event : ViewerEvent}
    (ha : ∀ request text, .loaded request text ∈ event.arrivals → loaded request text) :
    (v.step event).Faithful loaded := (v.response_step event).faithful h ha

theorem Faithful.run (h : v.Faithful loaded) {events : List ViewerEvent}
    (ha : ∀ event ∈ events, ∀ request text, .loaded request text ∈ event.arrivals → loaded request text) :
    (v.run events).Faithful loaded :=
  run_keeps (fun _ event hevent hv => hv.step (ha event hevent)) h

theorem faithful_start (context : ViewerContext) (s : Session) : (start context s).Faithful loaded := by
  obtain ⟨tree, targetOrder, history, he⟩ := start_eq context s
  rw [he]
  exact faithful_of_none rfl

/-- **The source pane shows no text of another request**, whatever arrives at whatever time. A text that it shows
has been loaded for the very request of the pane, and the mark that is looked at is one of the marks of the text. -/
theorem view_eq_build (context : ViewerContext) (s : Session) (events : List ViewerEvent) :
    let v := (start context s).run events
    ∀ pane view, v.source = some pane → pane.view = some view →
      (∃ event ∈ events, ∃ text, .loaded pane.request text ∈ event.arrivals ∧
        SourceView.build text pane.request = .ok view) ∧
      ∀ i, pane.focused = some i → i < view.marks.length := by
  intro v pane view hp hv
  have hrun : v.Faithful fun request text => ∃ event ∈ events, .loaded request text ∈ event.arrivals :=
    (faithful_start context s).run fun event he request text hm => ⟨event, he, hm⟩
  have hpane := hrun pane hp
  obtain ⟨text, ⟨event, he, hm⟩, hb⟩ := hpane.built view hv
  refine ⟨⟨event, he, text, hm, hb⟩, fun i hi => ?_⟩
  rw [← SourcePane.marks_of_view hv]
  exact hpane.focused_lt i hi

/-- A loop with one annotated name in its source, that of its variable. -/
def annotatedLoop : Node :=
  { Sample.loopNode Sample.firstId "DO i" false with
    payload := {
      path := some "f", startLine := some 1
      ranges := some "[\x7b\"start\":\x7b\"line\":1,\"ch\":3\x7d,\"end\":\x7b\"line\":1,\"ch\":3\x7d\x7d]" } }

/-- The source of the loop. -/
def annotatedRequest : SourceRequest where
  path := "f"
  address := "projects///f"
  link := "openviewer?proj=&algo=&meth=&path=f&ver=&src=projects%2F%2F%2Ff"
  startLine := 1
  endLine := 0
  ranges := annotatedLoop.payload.ranges
  locator := some (.directory "" "")

/-- The source is opened, another text arrives before its own, and the name is looked at. -/
def lookingAtName : List ViewerEvent :=
  [.key 0 (.char 'O'),
    .tick 10 [.loaded { annotatedRequest with path := "g" } "end", .loaded annotatedRequest "do i = 1, n"],
    .key 20 .tab]

/-- The name is the first mark of the text that arrived for the source. -/
theorem view_eq_build_annotated :
    let v := (start {} { outline := { forest := .cons annotatedLoop .nil .nil, nodup := by decide } }).run lookingAtName
    ∃ pane view, v.source = some pane ∧ pane.view = some view ∧ pane.focused = some 0 ∧
      (∃ event ∈ lookingAtName, ∃ text, .loaded pane.request text ∈ event.arrivals ∧
        SourceView.build text pane.request = .ok view) ∧
      0 < view.marks.length := by
  intro v
  have hfocused : v.source.bind (·.focused) = some 0 := by decide +kernel
  have hview : (v.source.bind (·.view)).isSome = true := by decide +kernel
  obtain ⟨pane, hp, hzero⟩ := Option.bind_eq_some_iff.1 hfocused
  rw [hp, Option.bind_some] at hview
  obtain ⟨view, hv⟩ := Option.isSome_iff_exists.1 hview
  obtain ⟨hbuilt, hlt⟩ := view_eq_build {} _ lookingAtName pane view hp hv
  exact ⟨pane, view, hp, hv, hzero, hbuilt, hlt 0 hzero⟩

end Viewer

end LoopSurvey
