import Mathlib
import LoopSurvey.Proofs.Viewer.Scene
import LoopSurvey.Sample.Pair
/-!
# Matches and the scope on display

As long as no comment is changed, the active result of a keyword consists of the hits of the keyword in the scope
on display, unless a scope was left while no keyword was typed (`nodes_eq_hits`). Every search is made in the scope
on display, and choosing the next scope searches anew for the keyword that is typed. But the keyword that is typed
may be gone while the result is still there, and then the result stays, whatever scope is chosen
(`Viewer.LeftIdly`).
-/

namespace LoopSurvey

theorem SearchScope.next_ne (scope : SearchScope) : scope.next ≠ scope := by
  cases scope <;> decide

/-! ## What acts do to the matches -/

namespace Scene

variable {s s' : Scene} {left left' : SearchScope → String → List NodeId → Prop}

/-- The active result is found in the scope on display, or in one that has been left with the result. -/
def Matches (left : SearchScope → String → List NodeId → Prop) (s : Scene) : Prop :=
  s.session.FoundIn s.scope ∨
    ∃ scope, s.session.FoundIn scope ∧ left scope s.session.results.keyword s.session.results.nodes

theorem Matches.keeps (h : s.Matches left) (hscope : s'.scope = s.scope) (hk : s.session.Keeps s'.session) :
    s'.Matches left := by
  rcases h with hfound | ⟨scope, hfound, hleft⟩
  · exact Or.inl (hscope ▸ hfound.keeps hk)
  · exact Or.inr ⟨scope, hfound.keeps hk, by rwa [hk.keyword_eq, hk.nodes_eq]⟩

/-- Where an operation finds a result anew, it does so in the scope on display. -/
theorem Matches.of_within (h : s.Matches left) (hscope : s'.scope = s.scope)
    (hw : s'.session.FoundIn s.scope ∨ s.session.Keeps s'.session) : s'.Matches left := by
  rcases hw with hfound | hk
  · exact Or.inl (hscope ▸ hfound)
  · exact h.keeps hscope hk

theorem Matches.act (h : s.Matches left) (ha : s.Act s') : s'.Matches left := by
  cases ha with
  | move m => exact h
  | focus id => exact h
  | retype query => exact h
  | look results hn hk => exact h.keeps rfl ⟨hn, hk, .refl _⟩
  | operate op hop => exact h.of_within rfl (s.session.operate_within hop)
  | jump node candidates => exact h.of_within rfl (s.session.jumpToCandidates_within node candidates s.scope)

theorem Matches.acts (h : s.Matches left) (ha : s.Acts s') : s'.Matches left := by
  induction ha with
  | refl => exact h
  | tail _ hact ih => exact ih.act hact

/-- A step on to the next scope leaves the one before if no keyword is typed. -/
theorem Matches.turn (h : s.Matches left) (ht : Turn False s s')
    (hleft : ∀ scope keyword nodes, left scope keyword nodes → left' scope keyword nodes)
    (hidle : s.query = "" → s'.scope ≠ s.scope →
      left' s.scope s.session.results.keyword s.session.results.nodes) : s'.Matches left' := by
  have h' : s.Matches left' := h.imp_right fun ⟨scope, hfound, hl⟩ => ⟨scope, hfound, hleft _ _ _ hl⟩
  cases ht with
  | acts ha => exact h'.acts ha
  | idles hq =>
    rcases h' with hfound | hother
    · -- the result stays, and the scope that it was found in is not on display any more
      exact Or.inr ⟨s.scope, hfound, hidle hq s.scope.next_ne⟩
    · exact Or.inr hother
  | cycles hq ha =>
    have hsearched : Matches left' (({ s with scope := s.scope.next } : Scene).operated
        (.changeScope s.query s.scope.next)) := Or.inl (s.session.foundIn_changeScope hq s.scope.next)
    exact hsearched.acts ha
  | comments hc _ => exact hc.elim

end Scene

/-! ## Whole runs -/

namespace Viewer

variable {v : Viewer} {events : List ViewerEvent}

/-- No comment is changed in a run. -/
def LeavesComments (v : Viewer) (events : List ViewerEvent) : Prop :=
  ∀ before event after, events = before ++ event :: after → ¬(v.run before).EditsComment event

/-- In a run a scope was left for the next one with a result active and no keyword typed. -/
def LeftIdly (v : Viewer) (events : List ViewerEvent) (scope : SearchScope) (keyword : String)
    (nodes : List NodeId) : Prop :=
  ∃ before event after, events = before ++ event :: after ∧ (v.run before).query = "" ∧
    (v.run before).scope = scope ∧ ((v.run before).step event).scope ≠ scope ∧
    (v.run before).session.results.keyword = keyword ∧ (v.run before).session.results.nodes = nodes

/-- A run without a result at its start. -/
theorem matches_run (h : v.session.results.nodes = []) (hc : v.LeavesComments events) :
    (v.run events).scene.Matches (v.LeftIdly events) := by
  induction events using List.reverseRecOn with
  | nil => exact Or.inl (Session.foundIn_of_nil h)
  | append_singleton events event ih =>
    have hbefore : v.LeavesComments events := fun before e after he =>
      hc before e (after ++ [event]) (by simp [he])
    have hlast : ¬(v.run events).EditsComment event := hc events event [] rfl
    rw [run_concat]
    refine (ih hbefore).turn (((v.run events).turn_step event).imp hlast) ?_ fun hq hscope => ?_
    · rintro scope keyword nodes ⟨before, e, after, he, hidle⟩
      exact ⟨before, e, after ++ [event], by simp [he], hidle⟩
    · exact ⟨events, event, [], rfl, hq, rfl, hscope, rfl, rfl⟩

/-- **Matches belong to the scope on display**, unless they have been left behind. In a run that changes no comment,
the active result of a keyword consists of the hits of the keyword in the scope on display; or it consists of those
in a scope that was left for the next one while the very same result was active and no keyword was typed. -/
theorem nodes_eq_hits (context : ViewerContext) (o : Outline) (t : Tables) (events : List ViewerEvent)
    (h : (start context { outline := o, tables := t }).LeavesComments events) :
    let loaded := start context { outline := o, tables := t }
    let v := loaded.run events
    let r := v.session.results
    r.nodes ≠ [] → r.keyword ≠ "" →
      r.nodes = v.session.outline.sortByLine (v.session.outline.hits r.keyword v.scope) ∨
      ∃ before event after, events = before ++ event :: after ∧
        let u := loaded.run before
        u.query = "" ∧ (u.step event).scope ≠ u.scope ∧
        u.session.results.keyword = r.keyword ∧ u.session.results.nodes = r.nodes ∧
        r.nodes = v.session.outline.sortByLine (v.session.outline.hits r.keyword u.scope) := by
  intro loaded v r hnodes hkeyword
  have hstart : loaded.session.results.nodes = [] := by
    have hsession : loaded.session = ({ outline := o, tables := t } : Session).makeReady.1 :=
      congrArg Work.session (work_start context _)
    obtain ⟨targetOrder, history, hready⟩ := ({ outline := o, tables := t } : Session).makeReady_eq
    rw [hsession, hready]
  rcases matches_run hstart h with hfound | ⟨scope, hfound, before, event, after, he, hq, rfl, hscope, hk, hn⟩
  · exact Or.inl (hfound hnodes hkeyword)
  · exact Or.inr ⟨before, event, after, he, hq, hscope, hk, hn, hfound hnodes hkeyword⟩

/-- Without the key that accepts what is written no comment is changed. -/
theorem leavesComments_of_forall (h : ∀ now, ViewerEvent.key now .enter ∉ events) : v.LeavesComments events := by
  rintro before event after rfl ⟨-, -, now, rfl⟩
  exact h now (by simp)

/-- A letter is typed and falls due. -/
def typingLetter : List ViewerEvent := [.key 0 (.char '/'), .key 0 (.char 'd'), .tick 500 []]

theorem results_typingLetter : ((start {} Sample.pairSession).run typingLetter).session.results =
    { keyword := "d", nodes := [Sample.firstId, Sample.secondId] } := by cbv

/-- Both loops have the letter in common, and no scope is left before it is typed. -/
theorem nodes_eq_hits_pair :
    let v := (start {} Sample.pairSession).run typingLetter
    (start {} Sample.pairSession).LeavesComments typingLetter ∧
    v.session.results.nodes = [Sample.firstId, Sample.secondId] ∧ v.session.results.keyword = "d" ∧
    v.session.results.nodes = v.session.outline.sortByLine (v.session.outline.hits "d" v.scope) := by
  have hcomments : (start {} Sample.pairSession).LeavesComments typingLetter :=
    leavesComments_of_forall (by simp [typingLetter])
  have hresults := results_typingLetter
  have hmatches := nodes_eq_hits {} Sample.pairOutline Sample.pairTables typingLetter hcomments
  have hloaded : ({ outline := Sample.pairOutline, tables := Sample.pairTables } : Session) = Sample.pairSession := rfl
  rw [hloaded] at hmatches
  dsimp only at hmatches ⊢
  rw [hresults] at hmatches ⊢
  refine ⟨hcomments, rfl, rfl, ?_⟩
  rcases hmatches (List.cons_ne_nil _ _) (by decide) with hhits | ⟨before, event, after, he, hq, hscope, -⟩
  · exact hhits
  · exfalso
    match before, he with
    | [], he => cases he; exact hscope rfl
    | [_], he => cases he; exact hscope rfl
    | [_, _], he => cases he; exact absurd hq (by decide)
    | _ :: _ :: _ :: _, he => simp [typingLetter] at he

/-- The scope goes on to code and a letter is typed there. A jump to targets, which there are none of, drops the
keyword that is typed, and then the scope goes on to comments. -/
def leavingScope : List ViewerEvent :=
  [.key 0 .tab, .key 0 (.char '/'), .key 0 (.char 'd'), .tick 500 [], .key 500 .escape, .key 500 (.char 't'),
    .key 500 .tab]

/-- The loops stay the active result, though they are no hits in the scope on display. -/
theorem nodes_ne_hits_pair :
    let v := (start {} { outline := Sample.pairOutline }).run leavingScope
    (start {} { outline := Sample.pairOutline }).LeavesComments leavingScope ∧
    v.session.results = { keyword := "d", nodes := [Sample.firstId, Sample.secondId] } ∧
    v.scope = .comment ∧
    ¬∀ id ∈ v.session.results.nodes, id ∈ v.session.outline.hits v.session.results.keyword v.scope := by
  have hresults : ((start {} { outline := Sample.pairOutline }).run leavingScope).session.results =
      { keyword := "d", nodes := [Sample.firstId, Sample.secondId] } := by cbv
  have hscope : ((start {} { outline := Sample.pairOutline }).run leavingScope).scope = .comment := by cbv
  have hhits : ((start {} { outline := Sample.pairOutline }).run leavingScope).session.outline.hits "d" .comment =
      [] := by cbv
  refine ⟨leavesComments_of_forall (by simp [leavingScope]), hresults, hscope, fun h => ?_⟩
  rw [hresults, hscope, hhits] at h
  exact List.not_mem_nil (h Sample.firstId List.mem_cons_self)

end Viewer

end LoopSurvey
