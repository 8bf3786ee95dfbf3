import LoopSurvey.Journal.Entry
import LoopSurvey.Proofs.Session.Unedited
/-!
# Replaying a journal

A journal is replayed on an outline by doing the judgments, levels, comments and checks of its entries
again to the nodes they list (`Journal.replay`). Replaying does not look at what is shown
(`Alike.replay`), and the entry of an accepted edit, replayed on the outline before the edit, gives the
outline after it but for what is shown (`alike_replay_edit`).
-/

namespace LoopSurvey

/-- A judgment is the one that its name stands for, if it is one that a name stands for. -/
theorem Judgment.ofName_name (name : String) : ofName (ofName name).name = ofName name := by
  by_cases h : name = "" ∨ name = notYetName
  · have hopen : ofName name = notYet := if_pos h
    rw [hopen]
    rfl
  · have hjudged : ofName name = judged name := if_neg h
    rw [hjudged]
    exact hjudged

/-- What a surveyor has recorded of a node: its label, and whether it is checked. -/
def Node.record (n : Node) : NodeId × Label × Bool := (n.id, n.label, n.state.checked)

namespace Journal

/-- The identifiers of the nodes of an outline that an entry lists. -/
def Entry.listed (e : Entry) (o : Outline) : List NodeId :=
  o.ids.filter fun id => e.nodes.any (·.id = id.text)

/-- The outline after an entry is replayed: judgments, levels, comments and checks are done again to
the nodes that the entry lists; any other entry is passed over. -/
def Entry.replay (e : Entry) (o : Outline) : Outline :=
  match e.action with
  | .judgment name => o.updateLabel (e.listed o) (·.judge (.ofName name))
  | .estimation level => o.updateLabel (e.listed o) (·.withLevel level)
  | .comment text => o.updateLabel (e.listed o) (·.setComment text)
  | .checked checked => o.setChecked (e.listed o) checked
  | _ => o

/-- The outline after the entries of a journal are replayed, first one first. -/
def replay (o : Outline) (entries : List Entry) : Outline := entries.foldl (fun o e => e.replay o) o

/-- Whether an action changes neither labels nor checks. -/
def Action.isQuiet : Action → Bool
  | .judgment _ | .estimation _ | .comment _ | .checked _ => false
  | _ => true

variable {o o' : Outline} {e : Entry}

/-! ## What replaying depends on -/

theorem replay_append (o : Outline) (entries entries' : List Entry) :
    replay o (entries ++ entries') = replay (replay o entries) entries' :=
  List.foldl_append ..

theorem Entry.replay_of_isQuiet (h : e.action.isQuiet = true) (o : Outline) : e.replay o = o := by
  unfold replay
  split <;> simp_all [Action.isQuiet]

/-- Entries that change neither labels nor checks are passed over. -/
theorem replay_of_isQuiet {entries : List Entry} (h : ∀ e ∈ entries, e.action.isQuiet = true)
    (o : Outline) : replay o entries = o := by
  induction entries with
  | nil => rfl
  | cons e entries ih =>
    have he : e.replay o = o := e.replay_of_isQuiet (h e List.mem_cons_self) o
    unfold replay at ih ⊢
    rw [List.foldl_cons, he]
    exact ih fun e' h' => h e' (List.mem_cons_of_mem _ h')

/-- An entry lists the same nodes of alike outlines. -/
theorem Entry.listed_congr (e : Entry) (h : o.ids = o'.ids) : e.listed o = e.listed o' := by
  unfold listed
  rw [h]

end Journal

/-- Replaying does not look at what is shown. -/
theorem Outline.Alike.replayEntry {o o' : Outline} (h : o.Alike o') (e : Journal.Entry) :
    (e.replay o).Alike (e.replay o') := by
  unfold Journal.Entry.replay
  rw [e.listed_congr h.ids]
  split
  · exact h.updateLabel _ _
  · exact h.updateLabel _ _
  · exact h.updateLabel _ _
  · exact h.setChecked _ _
  · exact h

namespace Journal

/-! ## Replaying an edit -/

variable (identity : Identity) (ids : List NodeId)

/-- The entry for an action on listed nodes lists those of them that are in the outline. -/
theorem Entry.mem_listed_on {id : NodeId} (hid : id ∈ o.ids) (action : Action) :
    id ∈ (Entry.on identity o ids action).listed o ↔ id ∈ ids := by
  have hany : ((Entry.on identity o ids action).nodes.any (·.id = id.text)) = true ↔ id ∈ ids := by
    rw [List.any_eq_true]
    constructor
    · rintro ⟨d, hd, ht⟩
      obtain ⟨n, hn, rfl⟩ := List.mem_map.1 hd
      obtain ⟨id', hid', hnode⟩ := List.mem_filterMap.1 hn
      have hname : n.id = id := NodeId.ext_text (of_decide_eq_true ht)
      rw [← hname, (Outline.node?_eq_some_iff.1 hnode).2]
      exact hid'
    · intro h
      obtain ⟨n, hn, rfl⟩ := Outline.mem_ids.1 hid
      have hnode : n ∈ ids.filterMap o.node? := List.mem_filterMap.2 ⟨n.id, h, Outline.node?_of_mem hn⟩
      exact ⟨.ofNode n, List.mem_map_of_mem hnode, decide_eq_true rfl⟩
  unfold listed
  rw [List.mem_filter, hany]
  exact and_iff_right hid

/-- Replaying the entry for a change makes the change to the nodes listed, but for what is shown. A
judgment has to be one that its name stands for. -/
theorem Entry.alike_replay (e : Entry) {c : Change} (hj : ∀ j, c = .judge j → ∃ name, j = .ofName name)
    (h : e.action = c.action) : (e.replay o).Alike (c.make o (e.listed o)) := by
  unfold replay
  rw [h]
  cases c with
  | judge j =>
    obtain ⟨name, rfl⟩ := hj j rfl
    simp only [Change.action, Change.make, Judgment.ofName_name]
    exact Outline.Alike.refl _
  | setLevel level => exact Outline.Alike.refl _
  | comment text => exact Outline.Alike.refl _
  | check checked => exact Outline.Alike.refl _
  | setOpened opened => exact Outline.alike_setOpened o _ opened

/-- The entry of an accepted edit, replayed on the outline before the edit, gives the outline after it
but for what is shown. -/
theorem alike_replay_edit {s s' : Session} {edit : Edit} {touched : Touched}
    (hj : ∀ j, edit.change = .judge j → ∃ name, j = .ofName name)
    (h : s.edit edit = (s', .ok touched)) :
    ((Entry.on identity s'.outline touched.affected edit.change.action).replay s.outline).Alike
      s'.outline := by
  have hs : s'.outline = edit.change.make s.outline touched.affected := by
    rw [Session.edit_eq_ok h]
    rfl
  have hids : s'.outline.ids = s.outline.ids := by rw [hs, Change.ids_make]
  have hlisted := Entry.listed_congr
    (Entry.on identity s'.outline touched.affected edit.change.action) hids
  refine (Entry.alike_replay _ hj rfl).trans ?_
  rw [← hlisted, hs, edit.change.make_congr (o := s.outline) fun id hid => ?_]
  · exact Outline.Alike.refl _
  · rw [← hs]
    exact Entry.mem_listed_on identity touched.affected (hids ▸ hid) _

end Journal

end LoopSurvey
