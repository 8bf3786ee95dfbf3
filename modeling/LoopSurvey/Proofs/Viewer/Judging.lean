import LoopSurvey.Proofs.Session.Spreading
import LoopSurvey.Proofs.Viewer.JudgmentOrder
import LoopSurvey.Proofs.Viewer.Mode
import LoopSurvey.Proofs.Viewer.Rows
import LoopSurvey.Record.Load
import LoopSurvey.Settings.File
import LoopSurvey.Viewer.Draw
/-!
# Judging a node

Where the key for the next judgment goes to the outline and the cursor is on a node with a judgment, the key gives
the node the judgment that follows in the settings, and the cursor stays on it (`Judges.press`). So a number of such
keys comes to the same number of steps in the order of the judgments (`Judges.judge`), and whether each judgment of
the settings can be selected is a question about this order alone, whatever keys, ticks and frames came before
(`judgments_selectable`).
-/

namespace LoopSurvey

section Labels

variable {o : Outline} {id : NodeId} {ids : List NodeId} {f : Label → Label}

/-- Labels have nothing to do with what is visible. -/
theorem Outline.isVisible_updateLabel (h : o.isVisible id = true) : (o.updateLabel ids f).isVisible id = true :=
  isVisible_mono rfl (fun _ => rfl) (fun _ ho => ho) h

theorem Outline.node?_updateLabel {n : Node} (hn : o.node? id = some n) (hid : id ∈ ids) :
    (o.updateLabel ids f).node? id = some { n with label := f n.label } := by
  have hmem : n.id ∈ ids := (node?_eq_some_iff.1 hn).2.symm ▸ hid
  have hmap : (o.updateLabel ids f).node? id =
      (o.node? id).map fun m => { m with label := if m.id ∈ ids then f m.label else m.label } :=
    node?_of_map rfl (fun _ => by rfl) id
  rw [hmap, hn, Option.map_some, if_pos hmem]

end Labels

namespace TreePane

variable {t : TreePane} {o o' : Outline} {id : NodeId}

/-- The node under the cursor is visible. -/
theorem Follows.isVisible_of_selected? (h : t.Follows o) (hid : t.selected? = some id) : o.isVisible id = true := by
  obtain ⟨row, hrow, rfl⟩ := Option.map_eq_some_iff.1 hid
  obtain ⟨i, -, hi⟩ := Option.bind_eq_some_iff.1 hrow
  exact Outline.mem_rows_iff.1 ⟨row, h.rows_eq ▸ List.mem_of_getElem? hi, rfl⟩

/-- Bringing the rows up to date keeps the cursor on a node that is visible. -/
theorem selected?_refresh (hid : t.selected? = some id) (h : o'.isVisible id = true) :
    (t.refresh o').selected? = some id := by
  unfold refresh
  rw [hid]
  exact selected?_focus o' (Outline.mem_rows_iff.2 h)

/-- Laying the window out moves neither the rows nor the cursor. -/
theorem layOut_eq (t : TreePane) (height : Nat) : ∃ offset, t.layOut height = { t with height, offset } := by
  unfold layOut
  dsimp only
  split
  · exact ⟨t.offset, rfl⟩
  · split
    · exact ⟨_, rfl⟩
    · exact ⟨_, rfl⟩

theorem Follows.layOut (h : t.Follows o) (height : Nat) : (t.layOut height).Follows o := by
  obtain ⟨offset, he⟩ := t.layOut_eq height
  rw [he]
  exact ⟨h.rows_eq, h.cursor_eq_none_iff, h.cursor_lt⟩

end TreePane

/-- One loop with a judgment. -/
def Sample.judgedLoop (name : String) : Forest Record := .cons { id := .text "a", judgment := some name } .nil .nil

namespace Viewer

variable {v : Viewer} {id : NodeId} {c : Judgment}

/-! ## Events and frames -/

/-- What a viewer goes through: keys and ticks, and the frames that it is laid out for. -/
inductive Moment
  | event (e : ViewerEvent)
  | frame (width height : Nat)

/-- The viewer after a moment. -/
def pass (v : Viewer) : Moment → Viewer
  | .event e => v.step e
  | .frame width height => v.layOut width height

/-- The viewer after moments. -/
def live (v : Viewer) (moments : List Moment) : Viewer := moments.foldl pass v

/-- What events and frames keep is kept all along. -/
theorem live_keeps {P : Viewer → Prop} (hevent : ∀ v e, P v → P (step v e))
    (hframe : ∀ v width height, P v → P (layOut v width height)) (h : P v) (moments : List Moment) :
    P (v.live moments) := by
  induction moments generalizing v with
  | nil => exact h
  | cons moment moments ih =>
    cases moment with
    | event e => exact ih (hevent v e h)
    | frame width height => exact ih (hframe v width height h)

theorem context_step (v : Viewer) (event : ViewerEvent) : (v.step event).context = v.context :=
  (v.does_step event).context_eq

theorem context_layOut (v : Viewer) (width height : Nat) : (v.layOut width height).context = v.context := by
  unfold layOut
  dsimp only
  split <;> rfl

theorem context_live (v : Viewer) (moments : List Moment) : (v.live moments).context = v.context :=
  live_keeps (P := fun w => w.context = v.context) (fun w e hw => (w.context_step e).trans hw)
    (fun w width height hw => (w.context_layOut width height).trans hw) rfl moments

theorem follows_layOut (h : v.scene.Follows) (width height : Nat) : (v.layOut width height).scene.Follows := by
  unfold layOut
  dsimp only
  split
  · exact h
  · exact TreePane.Follows.layOut h _

/-- The tree pane follows the outline whatever frames it is laid out for. -/
theorem follows_live (h : v.scene.Follows) (moments : List Moment) : (v.live moments).scene.Follows :=
  live_keeps (P := fun v => v.scene.Follows) (fun v e hv => hv.turn (v.turn_step e))
    (fun _ width height hv => follows_layOut hv width height) h moments

@[simp] theorem context_start (context : ViewerContext) (s : Session) : (start context s).context = context :=
  congrArg Work.context (work_start context s)

/-! ## The key for the next judgment -/

/-- The judgment of a node. -/
def judgmentOf? (v : Viewer) (id : NodeId) : Option Judgment :=
  (v.session.outline.node? id).bind fun n => n.label.judgment

/-- The viewer after the key for the next judgment has been pressed at some times. -/
def judge (v : Viewer) (times : List Nat) : Viewer := v.run (times.map fun now => .key now (.char 'J'))

/-- The key for the next judgment goes to the outline, and the cursor is on a node with a judgment. -/
structure Judges (v : Viewer) (id : NodeId) (c : Judgment) : Prop where
  passes : v.Passes (.char 'J')
  follows : v.scene.Follows
  selected_eq : v.tree.selected? = some id
  judgment_eq : v.judgmentOf? id = some c

theorem edit_judge {n : Node} (hn : v.session.outline.node? id = some n) (j : Judgment) :
    ∃ outbox, v.edit ⟨id, .judge j⟩ = ({ v with
      session := v.session.withOutline (v.session.outline.updateLabel (v.session.judgmentReach n) (·.judge j))
      outbox } : Viewer).refresh := by
  unfold edit
  rw [Session.edit_judge hn j]
  exact ⟨_, rfl⟩

theorem press_of_passes (h : v.Passes (.char 'J')) (now : Nat) : v.press now (.char 'J') = v.cycleJudgment := by
  have hpress : v.press now (.char 'J') = v.pressTree (.char 'J') := by
    unfold press
    simp [h.help_eq, h.dialog_eq, h.mode_ne, h.textTree_eq, h.source_eq]
  rw [hpress]
  rfl

theorem Judges.cycleJudgment_eq (h : v.Judges id c) : v.cycleJudgment =
    ((judgmentAfter? v.context.judgments c).map fun j => v.edit ⟨id, .judge j⟩).getD v := by
  obtain ⟨n, hn, hc⟩ := Option.bind_eq_some_iff.1 h.judgment_eq
  obtain ⟨p, hp, rfl⟩ := Option.map_eq_some_iff.1 hn
  have hplace : v.place? = some p := by rw [place?, h.selected_eq, Option.bind_some, hp]
  have hid : p.id = id := (Outline.locate?_eq_some_iff.1 hp).2
  simp only [cycleJudgment, hplace, hc, hid]
  cases judgmentAfter? v.context.judgments c <;> rfl

/-- The viewer goes on judging with what the node has been given. -/
theorem Judges.edit (h : v.Judges id c) (j : Judgment) : (v.edit ⟨id, .judge j⟩).Judges id j := by
  obtain ⟨n, hn, hc⟩ := Option.bind_eq_some_iff.1 h.judgment_eq
  obtain ⟨outbox, he⟩ := edit_judge hn j
  have hvisible : (v.session.outline.updateLabel (v.session.judgmentReach n) (·.judge j)).isVisible id = true :=
    Outline.isVisible_updateLabel (TreePane.Follows.isVisible_of_selected? h.follows h.selected_eq)
  have hreached : id ∈ v.session.judgmentReach n :=
    (Outline.node?_eq_some_iff.1 hn).2 ▸ v.session.mem_judgmentReach n
  rw [he]
  refine ⟨⟨h.passes.help_eq, h.passes.dialog_eq, h.passes.mode_ne, h.passes.textTree_eq, ?_⟩,
    TreePane.follows_refresh _ _, TreePane.selected?_refresh h.selected_eq hvisible, ?_⟩
  · change v.source.bind _ = none
    cases v.source <;> rfl
  · change ((v.session.outline.updateLabel _ _).node? id).bind _ = some j
    rw [Outline.node?_updateLabel hn hreached]
    simp [Label.judge, hc]

/-- The key gives the node the judgment that follows, and the cursor stays on it. -/
theorem Judges.press (h : v.Judges id c) (now : Nat) :
    (v.press now (.char 'J')).Judges id (Judgment.following v.context.judgments c) := by
  rw [press_of_passes h.passes, h.cycleJudgment_eq, Judgment.following]
  cases judgmentAfter? v.context.judgments c with
  | none => exact h
  | some j => exact h.edit j

/-- As often as the key is pressed, so many steps are taken in the order of the judgments. -/
theorem Judges.judge (h : v.Judges id c) (times : List Nat) :
    (v.judge times).Judges id ((Judgment.following v.context.judgments)^[times.length] c) := by
  induction times generalizing v c with
  | nil => exact h
  | cons now times ih =>
    have hcontext : (v.press now (.char 'J')).context = v.context := v.context_step (.key now (.char 'J'))
    have hrest := ih (h.press now)
    rw [hcontext] at hrest
    exact hrest

theorem Judges.exists_judges {j : Judgment} (h : v.Judges id c) (hround : Judgment.ComesRound v.context.judgments)
    (hj : j ∈ v.context.judgments) :
    ∃ k ≤ v.context.judgments.length, ∀ times : List Nat, times.length = k → (v.judge times).Judges id j := by
  obtain ⟨k, hk, he⟩ := hround.reaches c hj
  refine ⟨k, hk, fun times hlength => ?_⟩
  have hjudges := h.judge times
  rwa [hlength, he] at hjudges

/-- The viewer of one judged loop starts with the cursor on it. -/
theorem judges_start (judgments : List Judgment) (name : String) :
    ∃ o tables, Record.load (Sample.judgedLoop name) = .ok (o, tables) ∧
      (start { judgments } { outline := o, tables }).Judges Sample.firstId (.ofName name) :=
  ⟨_, _, rfl, ⟨rfl, rfl, (nomatch ·), rfl, rfl⟩, follows_start _ _, rfl, rfl⟩

/-- **Which judgments can be selected.** Where the judgments of the settings come round, each of them can be selected
for each node that has a judgment: from any state of the viewer in which the key for the next judgment goes to the
outline, with the cursor on the node, some number of such keys, no more than there are judgments, gives the node the
judgment and leaves the cursor on it. Where they do not come round, a viewer can be started with the cursor on a
node with a judgment so that no number of keys gives it some judgment of the settings. -/
theorem judgments_selectable (settings : Settings) :
    (Judgment.ComesRound settings.judgmentValues →
      ∀ (context : ViewerContext) (s : Session) (moments : List Moment) (id : NodeId),
        context.judgments = settings.judgmentValues →
        let v := (start context s).live moments
        v.Passes (.char 'J') → v.tree.selected? = some id → v.judgmentOf? id ≠ none →
        ∀ name ∈ settings.judgments, ∃ k ≤ settings.judgments.length, ∀ times : List Nat, times.length = k →
          (v.judge times).tree.selected? = some id ∧
          (v.judge times).judgmentOf? id = some (Judgment.ofName name)) ∧
    (¬Judgment.ComesRound settings.judgmentValues →
      ∃ current ∈ settings.judgments, ∃ o tables, Record.load (Sample.judgedLoop current) = .ok (o, tables) ∧
        let v := start { judgments := settings.judgmentValues } { outline := o, tables }
        v.Passes (.char 'J') ∧ v.tree.selected? = some Sample.firstId ∧ v.judgmentOf? Sample.firstId ≠ none ∧
        ∃ name ∈ settings.judgments, ∀ times : List Nat,
          (v.judge times).judgmentOf? Sample.firstId ≠ some (Judgment.ofName name)) := by
  constructor
  · intro hround context s moments id hcontext v hpasses hselected hjudgment name hname
    obtain ⟨c, hc⟩ := Option.ne_none_iff_exists'.1 hjudgment
    have hjudges : v.Judges id c := ⟨hpasses, follows_live (follows_start context s) moments, hselected, hc⟩
    have hlisted : v.context.judgments = settings.judgmentValues := by
      rw [context_live, context_start]
      exact hcontext
    have hj : Judgment.ofName name ∈ v.context.judgments := hlisted ▸ List.mem_map.2 ⟨name, hname, rfl⟩
    rw [← hlisted] at hround
    obtain ⟨k, hk, hreached⟩ := hjudges.exists_judges hround hj
    rw [hlisted, Settings.judgmentValues, List.length_map] at hk
    refine ⟨k, hk, fun times hlength => ?_⟩
    exact ⟨(hreached times hlength).selected_eq, (hreached times hlength).judgment_eq⟩
  · intro hround
    obtain ⟨c, hc, j, hj, hnever⟩ := Judgment.exists_unreached hround
    obtain ⟨current, hcurrent, rfl⟩ := List.mem_map.1 hc
    obtain ⟨name, hname, rfl⟩ := List.mem_map.1 hj
    obtain ⟨o, tables, hload, hjudges⟩ := judges_start settings.judgmentValues current
    refine ⟨current, hcurrent, o, tables, hload, hjudges.passes, hjudges.selected_eq, ?_, name, hname, ?_⟩
    · rw [hjudges.judgment_eq]
      exact Option.some_ne_none _
    · intro times he
      have hjudged := (hjudges.judge times).judgment_eq
      rw [context_start] at hjudged
      exact hnever times.length (Option.some.inj (hjudged.symm.trans he))

/-- With the settings there are without a file, the first loop of the two can be given the last judgment. -/
theorem judgments_selectable_pair :
    let settings : Settings := {}
    let v := (start { judgments := settings.judgmentValues } Sample.pairSession).live
      [.frame 80 24, .event (.key 0 (.char 'j'))]
    Judgment.ComesRound settings.judgmentValues ∧ v.Passes (.char 'J') ∧ v.tree.selected? = some Sample.firstId ∧
    v.judgmentOf? Sample.firstId = some .notYet ∧
    ∃ k ≤ 4, ∀ times : List Nat, times.length = k →
      (v.judge times).judgmentOf? Sample.firstId = some (.judged "Unsure") := by
  intro settings v
  have hround : Judgment.ComesRound settings.judgmentValues := Judgment.comesRound_of_nodup (by decide)
  have hpasses : v.Passes (.char 'J') := ⟨rfl, rfl, (nomatch ·), rfl, rfl⟩
  have hselected : v.tree.selected? = some Sample.firstId := by decide
  have hjudgment : v.judgmentOf? Sample.firstId = some .notYet := by decide
  obtain ⟨k, hk, hreached⟩ := (judgments_selectable settings).1 hround { judgments := settings.judgmentValues }
    Sample.pairSession [.frame 80 24, .event (.key 0 (.char 'j'))] Sample.firstId rfl hpasses hselected
    (hjudgment ▸ Option.some_ne_none _) "Unsure" (by decide)
  exact ⟨hround, hpasses, hselected, hjudgment, k, hk, fun times hlength => (hreached times hlength).2⟩

end Viewer

/-- Settings that name the open judgment twice. -/
def Sample.repeatedSettings : Settings := { judgments := ["NotYet", "Kernel", "NotYet", "NotKernel"] }

namespace Viewer

open Sample (repeatedSettings)

theorem following_ne_of_repeated (k : Nat) :
    (Judgment.following repeatedSettings.judgmentValues)^[k] .notYet ≠ .ofName "NotKernel" := by
  have hnodup : [Judgment.notYet, .ofName "Kernel"].Nodup := by decide
  have hout : Judgment.ofName "NotKernel" ∉ [Judgment.notYet, .ofName "Kernel"] := by decide
  intro he
  refine hout (he ▸ ?_)
  exact @Judgment.iterate_following_mem .notYet [] [.ofName "Kernel"] [.ofName "NotKernel"] .notYet hnodup k
    List.mem_cons_self

/-- In a file that names the open judgment twice, what stands after its repetition cannot be selected. -/
theorem not_selectable_after_repeated :
    Settings.ofFile "survey.toml" "judgments = [\"NotYet\", \"Kernel\", \"NotYet\", \"NotKernel\"]" =
      .ok repeatedSettings ∧
    "NotKernel" ∈ repeatedSettings.judgments ∧
    ∃ o tables, Record.load (Sample.judgedLoop "NotYet") = .ok (o, tables) ∧
      let v := start { judgments := repeatedSettings.judgmentValues } { outline := o, tables }
      v.Passes (.char 'J') ∧ v.tree.selected? = some Sample.firstId ∧
      v.judgmentOf? Sample.firstId = some .notYet ∧
      ∀ times : List Nat, (v.judge times).judgmentOf? Sample.firstId ≠ some (.ofName "NotKernel") := by
  obtain ⟨o, tables, hload, hjudges⟩ := judges_start repeatedSettings.judgmentValues "NotYet"
  refine ⟨by cbv, by decide, o, tables, hload, hjudges.passes, hjudges.selected_eq, hjudges.judgment_eq, ?_⟩
  intro times he
  have hjudged := (hjudges.judge times).judgment_eq
  rw [context_start] at hjudged
  exact following_ne_of_repeated times.length (Option.some.inj (hjudged.symm.trans he))

end Viewer

end LoopSurvey
