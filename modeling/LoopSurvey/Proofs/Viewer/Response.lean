import Mathlib.Tactic.SplitIfs
import LoopSurvey.Proofs.Viewer.Effect
/-!
# What becomes of a key or a tick

One walk over the handlers tells what effect each has: commands (`effect_perform`), answers to dialogs
(`answers_answerDialog`), keys for the keyword (`spells_pressSearch`) and the search that is due (`fireDue_cases`).
One over keys and ticks tells which handler is called, and what becomes of an open dialog (`response_step`).
-/

namespace LoopSurvey.Viewer

variable {call : Call} {v v' : Viewer}

/-! ## The handlers -/

theorem searches_runSearch (v : Viewer) (keyword : String) : v.Searches keyword (v.runSearch keyword) := by
  by_cases h : (v.session.search keyword v.scope).2.IsAdvanced
  · obtain ⟨-, node, he⟩ := Session.search_eq_of_isAdvanced h
    unfold runSearch
    rw [he]
    exact .steps node
  · exact .anew (.applyOutcome { v with session := (v.session.search keyword v.scope).1 } h)

theorem spells_pressSearch (v : Viewer) (now : Nat) (key : Key) : v.Spells (v.pressSearch now key) := by
  unfold pressSearch
  split
  · exact .leaves
  · unfold acceptQuery
    dsimp only
    split_ifs
    · exact .accepts (v.dropWaiting.searches_runSearch v.query)
    · exact .leaves
  · exact .retypes _ _
  · exact .retypes _ _
  · exact .stays

/-- A tick searches for the keyword that waits if it is due. -/
theorem fireDue_cases (v : Viewer) (now : Nat) : v.fireDue now = v ∨ ∃ waiting keyword,
    v.waiting.takeDue now = (waiting, some keyword) ∧
      ({ v with waiting } : Viewer).Searches keyword (v.fireDue now) := by
  unfold fireDue
  split
  · next waiting keyword hdue => exact Or.inr ⟨waiting, keyword, hdue, searches_runSearch _ keyword⟩
  · exact Or.inl rfl

theorem effect_edit (v : Viewer) {e : Edit} (known : ∀ j, e.change = .judge j → j ∈ v.context.judgments)
    (written : ∀ text, e.change = .comment text → ∃ node text, call = .answer (.commentEditor node text) .enter) :
    v.Effect call (v.edit e) := by
  unfold edit
  rcases v.session.edit_cases e with ⟨reason, he⟩ | ⟨session, touched, he⟩ <;> rw [he]
  · exact .looks (.say v _)
  · exact .edits he known written

theorem effect_toggleOpened (v : Viewer) : v.Effect call v.toggleOpened := by
  unfold toggleOpened
  split
  · exact .looks (.refl v)
  · split_ifs
    · exact .looks (.say v _)
    · exact v.effect_edit (fun _ h => nomatch h) fun _ h => nomatch h

theorem effect_closeOrParent (v : Viewer) : v.Effect call v.closeOrParent := by
  unfold closeOrParent
  split
  · exact .looks (.refl v)
  · split_ifs
    · exact v.effect_edit (fun _ h => nomatch h) fun _ h => nomatch h
    · split
      · exact .looks (.focus v _)
      · exact .looks (.refl v)

theorem effect_toggleChecked (v : Viewer) : v.Effect call v.toggleChecked := by
  unfold toggleChecked
  split
  · exact .looks (.refl v)
  · exact v.effect_edit (fun _ h => nomatch h) fun _ h => nomatch h

theorem mem_of_judgmentAfter? {judgments : List Judgment} {current j : Judgment}
    (h : judgmentAfter? judgments current = some j) : j ∈ judgments := by
  unfold judgmentAfter? at h
  split at h <;> exact List.mem_of_getElem? h

theorem effect_cycleJudgment (v : Viewer) : v.Effect call v.cycleJudgment := by
  unfold cycleJudgment
  split
  · exact .looks (.refl v)
  · split
    · exact .looks (.say v _)
    · split
      · next judgment hnext =>
        refine v.effect_edit (fun j h => ?_) fun _ h => nomatch h
        cases h
        exact mem_of_judgmentAfter? hnext
      · exact .looks (.refl v)

theorem effect_cycleEstimation (v : Viewer) : v.Effect call v.cycleEstimation := by
  unfold cycleEstimation
  split
  · exact .looks (.refl v)
  · split
    · exact .looks (.say v _)
    · exact v.effect_edit (fun _ h => nomatch h) fun _ h => nomatch h

theorem effect_expandNow (v : Viewer) (id : NodeId) : v.Effect call (v.expandNow id) :=
  .unfolds (.expandAll id) (.post _ _ rfl)

theorem effect_expandLoops (v : Viewer) (flag : LoopFlag) : v.Effect call (v.expandLoops flag) := by
  unfold expandLoops
  split
  · exact .looks (.refl v)
  · next p _ =>
    split_ifs
    · exact .looks (.refl v)
    · refine .unfolds (.expandLoops p.id flag) (.post _ _ ?_)
      cases flag <;> rfl

theorem effect_collapseAll (v : Viewer) : v.Effect call v.collapseAll := by
  unfold collapseAll
  split
  · exact .looks (.refl v)
  · next id _ => exact .unfolds (.collapseAll id) (.post _ _ rfl)

theorem effect_stepResult (v : Viewer) (forward : Bool) : v.Effect call (v.stepResult forward) := by
  unfold stepResult
  split
  · next session node h =>
    cases forward with
    | true =>
      obtain rfl : v.session.operate .next = session := congrArg Prod.fst h
      exact .steps (.inl rfl) node
    | false =>
      obtain rfl : v.session.operate .previous = session := congrArg Prod.fst h
      exact .steps (.inr rfl) node
  · exact .looks (.say v _)

theorem effect_goBack (v : Viewer) : v.Effect call v.goBack := by
  unfold goBack
  split
  · exact .looks (.focus v _)
  · exact .looks (.say v _)

theorem effect_clearSearch (v : Viewer) : v.Effect call v.clearSearch := by
  unfold clearSearch
  split_ifs
  · exact .looks (.refl v)
  · exact .clears

theorem effect_cycleScope (v : Viewer) : v.Effect (.command .cycleScope) v.cycleScope := by
  by_cases h : v.query = ""
  · have hscope : v.session.changeScope v.query v.scope.next = (v.session, none) := if_pos h
    unfold cycleScope
    simp only [say, hscope]
    exact .idles rfl h
  · have hscope := v.session.changeScope_of_ne h v.scope.next
    let searched : Viewer := { v with
      scope := v.scope.next
      session := (v.session.clearResults.1.search v.query v.scope.next).1 }
    -- the result before has been dropped, so the search cannot have stepped through it
    have hlooks : (searched.refresh.say ("Data source: " ++ v.scope.next.name)).Looks _ :=
      .applyOutcome (searched.say _) (v.session.not_isAdvanced_clearResults v.query v.scope.next)
    refine .cycles rfl h ?_
    unfold cycleScope
    simp only [say, Session.operate, hscope]
    exact .of_say hlooks

theorem effect_jumpTargets (v : Viewer) : v.Effect (.command .jumpTargets) v.jumpTargets := by
  unfold jumpTargets Session.jumpToTargets
  dsimp only
  split
  · next session presented he =>
    split_ifs at he with hempty
    · cases he
    · cases he
      have hne : v.session.targetOrder ≠ [] := by simpa using hempty
      exact .jumps (.targets rfl hne) (presents_showPresented _ _ _ _)
  · exact .untypes (.say _ _)

theorem effect_jumpCallee (v : Viewer) : v.Effect (.command .jumpCallee) v.jumpCallee := by
  unfold jumpCallee
  split
  · exact .looks (.refl v)
  · next id hid =>
    split
    · next session callee candidates h => exact .jumps (.callee rfl hid h) (presents_showPresented _ _ _ _)
    · next session h =>
      obtain rfl : (v.session.calleeChoice id).1 = session := congrArg Prod.fst h
      exact .loses (.inl rfl) hid (.say _ _)

theorem effect_jumpOrOpen (v : Viewer) : v.Effect (.command .jumpOrOpen) v.jumpOrOpen := by
  unfold jumpOrOpen
  split
  · exact .looks (.refl v)
  · next id hid =>
    split
    · next session callee candidates h => exact .asks rfl hid h
    · next session h =>
      obtain rfl : (v.session.calleeChoice id).1 = session := congrArg Prod.fst h
      exact .loses (.inr rfl) hid (.openSource _ id)

theorem effect_openSelectedSource (v : Viewer) : v.Effect call v.openSelectedSource := by
  unfold openSelectedSource
  split
  · exact .looks (.refl v)
  · exact .looks (.openSource v _)

theorem effect_editComment (v : Viewer) : v.Effect (.command .editComment) v.editComment := by
  unfold editComment
  split
  · exact .looks (.refl v)
  · exact .opens rfl (.commentEditor _ _)

theorem effect_listComments (v : Viewer) : v.Effect (.command .listComments) v.listComments := by
  unfold listComments
  split
  · exact .looks (.say v _)
  · exact .opens rfl .comments

theorem effect_expandAll (v : Viewer) : v.Effect (.command .expandAll) v.expandAll := by
  unfold expandAll
  split
  · exact .looks (.refl v)
  · split
    · exact .looks (.say v _)
    · exact v.effect_expandNow _
    · exact .opens rfl (.expandConfirm _ _)

/-- What a command does. -/
theorem effect_perform (v : Viewer) (command : TreeCommand) : v.Effect (.command command) (v.perform command) := by
  cases command with
  | quit => exact .looks (.shows .stays _ _ _ _)
  | help => exact .looks (.shows .stays _ _ _ _)
  | textTree => exact .looks (.shows .stays _ _ _ _)
  | toggleOpened => exact v.effect_toggleOpened
  | closeOrParent => exact v.effect_closeOrParent
  | toggleChecked => exact v.effect_toggleChecked
  | typeKeyword => exact .begins rfl
  | cycleScope => exact v.effect_cycleScope
  | nextResult => exact v.effect_stepResult true
  | previousResult => exact v.effect_stepResult false
  | clearResults => exact v.effect_clearSearch
  | jumpTargets => exact v.effect_jumpTargets
  | jumpCallee => exact v.effect_jumpCallee
  | jumpOrOpen => exact v.effect_jumpOrOpen
  | openSource => exact v.effect_openSelectedSource
  | cycleJudgment => exact v.effect_cycleJudgment
  | cycleEstimation => exact v.effect_cycleEstimation
  | editComment => exact v.effect_editComment
  | listComments => exact v.effect_listComments
  | expandAll => exact v.effect_expandAll
  | expandLoops flag => exact v.effect_expandLoops flag
  | collapseAll => exact v.effect_collapseAll
  | back => exact v.effect_goBack

/-! ## Dialogs -/

/-- What a key does to an open dialog: it stays open, with nothing else done, or it closes. -/
inductive Answers (v : Viewer) (d : Dialog) (key : Key) : Viewer × Option Dialog → Prop
  | stays {d' : Dialog} (h : d.Becomes d') : v.Answers d key (v, some d')
  /-- A failure is acknowledged by any key. -/
  | dismisses {message : String} (h : d = .alert message) : v.Answers d key (v, none)
  | closes (h : ∀ message, d ≠ .alert message) {v' : Viewer} (he : v.Effect (.answer d key) v') :
      v.Answers d key (v', none)

theorem answers_pressComments (v : Viewer) (entries : List (NodeId × String)) (cursor : Nat) (picked : List Nat)
    (key : Key) :
    v.Answers (.commentList entries cursor picked) key (v.pressComments entries cursor picked key) := by
  have hopen : ∀ message, Dialog.commentList entries cursor picked ≠ .alert message := fun _ hd => nomatch hd
  unfold pressComments Session.jumpTo
  split
  · dsimp only
    split
    · next session presented he =>
      split_ifs at he with hempty
      · cases he
      · cases he
        have hne : Dialog.chosen entries cursor picked ≠ [] := by simpa using hempty
        exact .closes hopen (.jumps (.comments rfl hne) (presents_showPresented _ _ _ _))
    · exact .closes hopen (.untypes (.refl _))
  · exact .closes hopen (.looks (.refl v))
  · exact .stays (.commentList _ _ _ _ _)
  · split <;> exact .stays (.commentList _ _ _ _ _)

theorem answers_answerDialog (v : Viewer) (d : Dialog) (key : Key) : v.Answers d key (v.answerDialog d key) := by
  cases d with
  | jumpOrOpen node callee candidates =>
    have hopen : ∀ message, Dialog.jumpOrOpen node callee candidates ≠ .alert message := fun _ hd => nomatch hd
    unfold answerDialog
    dsimp only
    split_ifs
    · exact .closes hopen (.takes rfl (presents_showPresented _ _ _ _))
    · exact .closes hopen (.looks (.openSource v node))
    · exact .closes hopen (.looks (.refl v))
    · exact .stays (.jumpOrOpen _ _ _)
  | commentEditor node text =>
    have hopen : ∀ message, Dialog.commentEditor node text ≠ .alert message := fun _ hd => nomatch hd
    unfold answerDialog
    dsimp only
    split
    · exact .closes hopen (v.effect_edit (fun _ h => nomatch h) fun _ _ => ⟨node, text, rfl⟩)
    · exact .closes hopen (.looks (.refl v))
    all_goals exact .stays (.commentEditor _ _ _)
  | commentList entries cursor picked => exact v.answers_pressComments entries cursor picked key
  | expandConfirm node descendants =>
    have hopen : ∀ message, Dialog.expandConfirm node descendants ≠ .alert message := fun _ hd => nomatch hd
    unfold answerDialog
    dsimp only
    split_ifs
    · exact .closes hopen (v.effect_expandNow node)
    · exact .closes hopen (.looks (.refl v))
    · exact .stays (.expandConfirm _ _)
  | alert message => exact .dismisses rfl

/-! ## Keys and ticks -/

/-- Whether a key goes to the outline, past all panes and dialogs. -/
structure Passes (v : Viewer) (key : Key) : Prop where
  help_eq : v.help.shown = false
  dialog_eq : v.dialog = none
  mode_ne : v.mode ≠ .editing
  textTree_eq : v.textTree = none
  source_eq : v.source.bind (v.pressSource? · key) = none

/-- What becomes of a viewer with a key or a tick. -/
inductive Response (v : Viewer) : ViewerEvent → Viewer → Prop
  | helps (now : Nat) (key : Key) (hhelp : v.help.shown = true) (help : HelpPane) (quit : Bool) :
      v.Response (.key now key) { v with help, quit }
  /-- The dialog stays open. -/
  | asks (now : Nat) (key : Key) (hhelp : v.help.shown = false) {d d' : Dialog} (hd : v.dialog = some d)
      (h : d.Becomes d') : v.Response (.key now key) { v with dialog := some d' }
  /-- A failure is acknowledged, and the next one is shown. -/
  | dismisses (now : Nat) (key : Key) (hhelp : v.help.shown = false) {message : String}
      (hd : v.dialog = some (.alert message)) :
      v.Response (.key now key) ({ v with dialog := none } : Viewer).nextDialog
  | closes (now : Nat) (key : Key) (hhelp : v.help.shown = false) {d : Dialog} (hd : v.dialog = some d)
      (halert : ∀ message, d ≠ .alert message) {v' : Viewer}
      (h : ({ v with dialog := none } : Viewer).Effect (.answer d key) v') : v.Response (.key now key) v'.nextDialog
  | spells (now : Nat) (key : Key) (hhelp : v.help.shown = false) (hd : v.dialog = none) (hm : v.mode = .editing)
      {v' : Viewer} (h : v.Spells v') : v.Response (.key now key) v'
  | reads (now : Nat) (key : Key) (hhelp : v.help.shown = false) (hd : v.dialog = none) (textTree : Option TextPane) :
      v.Response (.key now key) { v with textTree }
  | scrolls (now : Nat) (key : Key) (hhelp : v.help.shown = false) (hd : v.dialog = none) {pane : SourcePane}
      (hp : v.source = some pane) {v' : Viewer} (h : v.pressSource? pane key = some v') : v.Response (.key now key) v'
  /-- The cursor is moved, or the key means nothing. -/
  | moves (now : Nat) (key : Key) (hp : v.Passes key) {v' : Viewer} (h : v.Looks v') : v.Response (.key now key) v'
  | performs (now : Nat) (key : Key) (hp : v.Passes key) {command : TreeCommand} (hmotion : key.motion? = none)
      (hcommand : key.command? = some command) {v' : Viewer} (h : v.Effect (.command command) v') :
      v.Response (.key now key) v'
  /-- No keyword is due. -/
  | waits (now : Nat) (arrivals : List Arrival) : v.Response (.tick now arrivals) (v.receiveAll arrivals)
  | fires (now : Nat) (arrivals : List Arrival) {waiting : Debouncer String} {keyword : String}
      (hdue : v.waiting.takeDue now = (waiting, some keyword)) {v' : Viewer}
      (h : ({ v with waiting } : Viewer).Searches keyword v') : v.Response (.tick now arrivals) (v'.receiveAll arrivals)

theorem response_pressDialog {d : Dialog} (hhelp : v.help.shown = false) (hd : v.dialog = some d) (now : Nat)
    (key : Key) : v.Response (.key now key) (v.pressDialog d key) := by
  have hanswers := answers_answerDialog { v with dialog := none } d key
  unfold pressDialog
  generalize ({ v with dialog := none } : Viewer).answerDialog d key = answer at hanswers ⊢
  cases hanswers with
  | stays h => exact .asks now key hhelp hd h
  | dismisses h => exact .dismisses now key hhelp (h ▸ hd)
  | closes halert he => exact .closes now key hhelp hd halert he

theorem response_press (v : Viewer) (now : Nat) (key : Key) : v.Response (.key now key) (v.press now key) := by
  unfold press
  split
  · next hhelp =>
    obtain ⟨help, quit, he⟩ := v.pressHelp_eq key
    rw [he]
    exact .helps now key hhelp help quit
  · next hhelp =>
    have hhelp : v.help.shown = false := Bool.eq_false_iff.2 hhelp
    split
    · next d hd => exact response_pressDialog hhelp hd now key
    · next hd =>
      split
      · next hm => exact .spells now key hhelp hd hm (v.spells_pressSearch now key)
      · next hm =>
        split
        · next pane _ =>
          obtain ⟨textTree, he⟩ := v.pressTextTree_eq pane key
          rw [he]
          exact .reads now key hhelp hd textTree
        · next htext =>
          split
          · next v' hv' =>
            obtain ⟨pane, hp, hpane⟩ := Option.bind_eq_some_iff.1 hv'
            exact .scrolls now key hhelp hd hp hpane
          · next hsource =>
            have hpasses : v.Passes key := ⟨hhelp, hd, hm, htext, hsource⟩
            unfold pressTree
            split
            · next m _ =>
              exact .moves now key hpasses (.move v m)
            · next hmotion =>
              split
              · next command hcommand =>
                exact .performs now key hpasses hmotion hcommand (v.effect_perform command)
              · exact .moves now key hpasses (.refl v)

/-- **What keys and ticks do.** -/
theorem response_step (v : Viewer) (event : ViewerEvent) : v.Response event (v.step event) := by
  cases event with
  | key now key => exact v.response_press now key
  | tick now arrivals =>
    change v.Response (.tick now arrivals) ((v.fireDue now).receiveAll arrivals)
    rcases v.fireDue_cases now with he | ⟨waiting, keyword, hdue, h⟩
    · rw [he]
      exact .waits now arrivals
    · exact .fires now arrivals hdue h

end LoopSurvey.Viewer
