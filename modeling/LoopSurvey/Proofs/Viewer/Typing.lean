import LoopSurvey.Proofs.Viewer.Alerts
import LoopSurvey.Proofs.Viewer.Poise
import LoopSurvey.Proofs.Viewer.Showing
/-!
# Typing a keyword

While a keyword is typed, keys change it and ticks search for what has fallen due. What comes of that can be
told from the keys and the times alone (`Typed`), and the viewer goes along with it (`Types.step`). Accepting
the keyword drops what waits and keeps a result that is that of the keyword already (`Types.acceptQuery`), so it
leads to the first hit unless the search for the keyword fell due several times in a row, which has stepped
through its hits by then (`accepted_keyword`).
-/

namespace LoopSurvey

/-! ## What is typed -/

/-- Whether something that arrives is a failure. -/
def Arrival.IsAlert (a : Arrival) : Prop := ∃ message, a = .alert message

/-- Characters and backspaces are typed, while time passes and nothing fails. -/
inductive ViewerEvent.IsTyping : ViewerEvent → Prop
  | char (now : Nat) (c : Char) : IsTyping (.key now (.char c))
  | backspace (now : Nat) : IsTyping (.key now .backspace)
  | tick (now : Nat) {arrivals : List Arrival} (h : ∀ a ∈ arrivals, ¬a.IsAlert) : IsTyping (.tick now arrivals)

/-- A keyword that is typed, what waits to be searched for, and the keywords that have been, in lower case, the
last one first. -/
structure Typed where
  query : String := ""
  waiting : Debouncer String
  searched : List String := []

namespace Typed

/-- The keyword is changed, and its search waits. -/
def retype (t : Typed) (now : Nat) (query : String) : Typed :=
  { t with query, waiting := t.waiting.schedule now query }

/-- What waits is searched for if it is due. -/
def fireDue (t : Typed) (now : Nat) : Typed :=
  match t.waiting.takeDue now with
  | (waiting, some keyword) => { t with waiting, searched := Text.lower keyword :: t.searched }
  | (_, none) => t

/-- What is typed after an event. -/
def step (t : Typed) : ViewerEvent → Typed
  | .key now (.char c) => t.retype now (t.query.push c)
  | .key now .backspace => t.retype now (Viewer.withoutLast t.query)
  | .key _ _ => t
  | .tick now _ => t.fireDue now

theorem step_char (t : Typed) (now : Nat) (c : Char) :
    t.step (.key now (.char c)) = t.retype now (t.query.push c) := rfl

theorem step_backspace (t : Typed) (now : Nat) :
    t.step (.key now .backspace) = t.retype now (Viewer.withoutLast t.query) := rfl

/-- What is typed after events. -/
def run (t : Typed) (events : List ViewerEvent) : Typed := events.foldl step t

/-- The keyword in lower case. -/
def keyword (t : Typed) : String := Text.lower t.query

/-- How often the search for the keyword fell due again, right after it had. -/
def again (t : Typed) : Nat := (t.searched.takeWhile (· = t.keyword)).length - 1

/-- The active result once the keyword is accepted. -/
def accepted (t : Typed) (o : Outline) (scope : SearchScope) : Results :=
  if t.keyword = "" ∨ o.hits t.keyword scope = [] then {}
  else {
    keyword := t.keyword
    nodes := o.sortByLine (o.hits t.keyword scope)
    cursor := t.again % (o.hits t.keyword scope).length }

end Typed

namespace Viewer

variable {v v' : Viewer} {o : Outline} {scope : SearchScope} {t : Typed}

/-- A keyword is typed in a viewer, and nothing else is open. -/
structure Types (v : Viewer) (o : Outline) (scope : SearchScope) (t : Typed) : Prop where
  mode_eq : v.mode = .editing
  dialog_eq : v.dialog = none
  alerts_eq : v.alerts = []
  help_eq : v.help.shown = false
  scope_eq : v.scope = scope
  query_eq : v.query = t.query
  waiting_eq : v.waiting = t.waiting
  shows : v.Shows o scope t.searched

theorem receive_of_not_isAlert (v : Viewer) {a : Arrival} (h : ¬a.IsAlert) :
    ∃ source notice, v.receive a = { v with source, notice } := by
  cases a with
  | alert message => exact absurd ⟨message, rfl⟩ h
  | loaded request text =>
    unfold receive receiveSource
    dsimp only
    split
    · exact ⟨_, _, rfl⟩
    · split <;> exact ⟨_, _, rfl⟩
  | failed request =>
    unfold receive
    dsimp only
    split_ifs <;> exact ⟨_, _, rfl⟩

/-- Sources that arrive, or fail to, change the source pane and the last line. -/
theorem foldl_receive_of_not_isAlert (v : Viewer) {arrivals : List Arrival} (h : ∀ a ∈ arrivals, ¬a.IsAlert) :
    ∃ source notice, arrivals.foldl receive v = { v with source, notice } := by
  induction arrivals generalizing v with
  | nil => exact ⟨_, _, rfl⟩
  | cons a rest ih =>
    obtain ⟨ha, hrest⟩ := List.forall_mem_cons.1 h
    obtain ⟨source, notice, he⟩ := v.receive_of_not_isAlert ha
    rw [List.foldl_cons, he]
    exact ih _ hrest

theorem Types.retype (h : v.Types o scope t) (now : Nat) (query : String) :
    (v.retype now query).Types o scope (t.retype now query) where
  mode_eq := h.mode_eq
  dialog_eq := h.dialog_eq
  alerts_eq := h.alerts_eq
  help_eq := h.help_eq
  scope_eq := h.scope_eq
  query_eq := rfl
  waiting_eq := congrArg (Debouncer.schedule · now query) h.waiting_eq
  shows := h.shows.congr rfl rfl

/-- What falls due is searched for. -/
theorem Types.fireDue (h : v.Types o scope t) (now : Nat) :
    (v.fireDue now).Types o scope (t.fireDue now) := by
  unfold Viewer.fireDue Typed.fireDue
  rw [h.waiting_eq]
  obtain ⟨waiting, due⟩ := t.waiting.takeDue now
  cases due with
  | some keyword =>
    dsimp only
    have hshows : ({ v with waiting } : Viewer).Shows o scope t.searched := h.shows.congr rfl rfl
    have hfound := hshows.runSearch h.scope_eq keyword
    obtain ⟨tree, outbox, he⟩ := runSearch_eq { v with waiting } keyword
    rw [he] at hfound ⊢
    exact ⟨h.mode_eq, h.dialog_eq, h.alerts_eq, h.help_eq, h.scope_eq, h.query_eq, rfl, hfound⟩
  | none => exact h

theorem Types.receiveAll (h : v.Types o scope t) {arrivals : List Arrival}
    (ha : ∀ a ∈ arrivals, ¬a.IsAlert) : (v.receiveAll arrivals).Types o scope t := by
  obtain ⟨source, notice, he⟩ := v.foldl_receive_of_not_isAlert ha
  have hshown : v.receiveAll arrivals = { v with source, notice } := by
    unfold Viewer.receiveAll showAlert nextDialog
    simp [he, h.dialog_eq, h.alerts_eq]
  rw [hshown]
  exact ⟨h.mode_eq, h.dialog_eq, h.alerts_eq, h.help_eq, h.scope_eq, h.query_eq, h.waiting_eq,
    h.shows.congr rfl rfl⟩

theorem Types.press (h : v.Types o scope t) (now : Nat) (key : Key) :
    v.press now key = v.pressSearch now key := by
  unfold Viewer.press
  simp [h.help_eq, h.dialog_eq, h.mode_eq]

/-- Typing goes on. -/
theorem Types.step (h : v.Types o scope t) {event : ViewerEvent} (he : event.IsTyping) :
    (v.step event).Types o scope (t.step event) := by
  cases he with
  | char now c =>
    have hpress : v.step (.key now (.char c)) = v.retype now (v.query.push c) := h.press now (.char c)
    rw [hpress, Typed.step_char, ← h.query_eq]
    exact h.retype now (v.query.push c)
  | backspace now =>
    have hpress : v.step (.key now .backspace) = v.retype now (withoutLast v.query) := h.press now .backspace
    rw [hpress, Typed.step_backspace, ← h.query_eq]
    exact h.retype now (withoutLast v.query)
  | tick now ha => exact (h.fireDue now).receiveAll ha

theorem Types.run (h : v.Types o scope t) {events : List ViewerEvent} (he : ∀ e ∈ events, e.IsTyping) :
    (v.run events).Types o scope (t.run events) := by
  induction events generalizing v t with
  | nil => exact h
  | cons event rest ih =>
    obtain ⟨hevent, hrest⟩ := List.forall_mem_cons.1 he
    exact ih (h.step hevent) hrest

/-! ## Accepting what is typed -/

/-- The result of the keyword stays as it is. -/
theorem accepted_of_found (h : (o.found scope t.searched).nodes ≠ [] ∧
    (o.found scope t.searched).keyword = t.keyword) : o.found scope t.searched = t.accepted o scope := by
  obtain ⟨hne, hsame⟩ := h
  obtain ⟨last, before, hsearched, hempty, hhits, hlast⟩ := Outline.keyword_found hne
  obtain rfl : last = t.keyword := hlast.symm.trans hsame
  have hnone : ¬(t.keyword = "" ∨ o.hits t.keyword scope = []) := fun h => h.elim hempty hhits
  rw [Typed.accepted, if_neg hnone, Typed.again, hsearched, Outline.found_of_ne hempty hhits]
  simp

/-- Any other result gives way to the first search for the keyword. -/
theorem accepted_of_not_found (h : ¬((o.found scope t.searched).nodes ≠ [] ∧
    (o.found scope t.searched).keyword = t.keyword)) :
    o.found scope (t.keyword :: t.searched) = t.accepted o scope := by
  rw [Typed.accepted, Outline.found]
  split_ifs with hnone
  · rfl
  · obtain ⟨hempty, hhits⟩ := not_or.1 hnone
    rw [Typed.again, Outline.takeWhile_eq_nil_of_found hempty hhits h]
    rfl

theorem session_stopTyping (v : Viewer) : v.stopTyping.session = v.session := rfl

theorem tree_stopTyping (v : Viewer) : v.stopTyping.tree = v.tree := rfl

/-- Accepting what is typed. -/
theorem Types.acceptQuery (h : v.Types o scope t) :
    v.acceptQuery.session.results = t.accepted o scope ∧
    (v.acceptQuery.session.results.nodes ≠ [] →
      v.acceptQuery.tree.selected? = v.acceptQuery.session.results.current?) := by
  have hk : Text.lower v.dropWaiting.query = t.keyword := congrArg Text.lower h.query_eq
  have hdropped : v.dropWaiting.Shows o scope t.searched := h.shows.congr rfl rfl
  have hactive : ∀ r : Results, (r.isEmpty || r.keyword ≠ t.keyword) = true ↔
      ¬(r.nodes ≠ [] ∧ r.keyword = t.keyword) := by
    intro r
    simp [Results.isEmpty, imp_iff_not_or]
  unfold Viewer.acceptQuery
  dsimp only
  rw [hk]
  split_ifs with hnew
  · have hother : ¬((o.found scope t.searched).nodes ≠ [] ∧
        (o.found scope t.searched).keyword = t.keyword) := by
      rcases hdropped.results_eq with hfound | ⟨hnil, -⟩
      · exact hfound ▸ (hactive _).1 hnew
      · rw [hnil]
        exact fun hne => hne.1 rfl
    have hshows := hdropped.runSearch h.scope_eq v.dropWaiting.query
    rw [hk] at hshows
    have hresults := hshows.results_eq.resolve_right fun hnil => List.cons_ne_nil _ _ hnil.1
    rw [session_stopTyping, tree_stopTyping]
    exact ⟨hresults.trans (accepted_of_not_found hother), hshows.selected_eq⟩
  · have hsame := Classical.not_not.1 fun hne => hnew ((hactive _).2 hne)
    have hfound := hdropped.results_eq.resolve_right fun hnil => hsame.1 hnil.2
    rw [session_stopTyping, tree_stopTyping]
    exact ⟨hfound.trans (accepted_of_found (hfound ▸ hsame)), hdropped.selected_eq⟩

/-! ## From the first key to the last -/

/-- Nothing is open but the source pane, no keyword is typed and no result is active. -/
structure Idle (v : Viewer) : Prop where
  mode_ne : v.mode ≠ .editing
  dialog_eq : v.dialog = none
  help_eq : v.help.shown = false
  textTree_eq : v.textTree = none
  query_eq : v.query = ""
  nodes_eq : v.session.results.nodes = []

/-- The key that starts typing a keyword does so with the source pane open, too. -/
theorem Idle.press_slash (h : v.Idle) (now : Nat) :
    v.press now (.char '/') = { v with mode := .editing } := by
  have hpane : v.source.bind (v.pressSource? · (.char '/')) = none := by
    cases v.source <;> rfl
  have hpress : v.press now (.char '/') = v.pressTree (.char '/') := by
    unfold press
    simp [h.help_eq, h.dialog_eq, h.mode_ne, h.textTree_eq, hpane]
  rw [hpress]
  rfl

theorem Idle.types (h : v.Idle) (ha : v.Heeded) :
    ({ v with mode := .editing } : Viewer).Types v.session.outline v.scope { waiting := v.waiting } where
  mode_eq := rfl
  dialog_eq := h.dialog_eq
  alerts_eq := ha h.dialog_eq
  help_eq := h.help_eq
  scope_eq := rfl
  query_eq := h.query_eq
  waiting_eq := rfl
  shows := shows_of_nil (.refl _) h.nodes_eq (Or.inr rfl)

/-- A keyword is typed and accepted. -/
theorem Idle.run_typing (h : v.Idle) (ha : v.Heeded) (first last : Nat) {typing : List ViewerEvent}
    (he : ∀ e ∈ typing, e.IsTyping) :
    let v' := v.run (.key first (.char '/') :: typing ++ [.key last .enter])
    v'.session.results = (({ waiting := v.waiting } : Typed).run typing).accepted v.session.outline v.scope ∧
    (v'.session.results.nodes ≠ [] → v'.tree.selected? = v'.session.results.current?) := by
  intro v'
  have htyped := (h.types ha).run he
  have hrun : v' = (({ v with mode := .editing } : Viewer).run typing).acceptQuery := by
    have hslash : v.step (.key first (.char '/')) = { v with mode := .editing } := h.press_slash first
    have hfold : v' = ((v.step (.key first (.char '/'))).run typing).step (.key last .enter) := by
      simp only [v', Viewer.run, List.cons_append, List.foldl_cons, List.foldl_append, List.foldl_nil]
    rw [hfold, hslash]
    exact htyped.press last .enter
  rw [hrun]
  exact htyped.acceptQuery

/-! ## The viewer at its start -/

theorem idle_start (context : ViewerContext) {s : Session} (h : s.results.nodes = []) :
    (start context s).Idle := by
  obtain ⟨tree, targetOrder, history, he⟩ := start_eq context s
  rw [he]
  exact ⟨fun hm => (nomatch hm), rfl, rfl, rfl, rfl, h⟩

/-- Nothing waits to be searched for while no keyword is typed. -/
theorem Poised.waiting_eq (h : v.Poised) (hm : v.mode ≠ .editing) : v.waiting = { delay := v.waiting.delay } :=
  congrArg (Debouncer.mk v.waiting.delay) (h.pending_eq hm)

/-- Both loops are hits of the letter that they have in common. -/
theorem accepted_pair {t : Typed} (h : t.keyword = "d") : t.accepted Sample.pairOutline .all =
    { keyword := "d", nodes := [Sample.firstId, Sample.secondId], cursor := t.again % 2 } := by
  have hhits : Sample.pairOutline.hits "d" .all = [Sample.firstId, Sample.secondId] := rfl
  have hsort : Sample.pairOutline.sortByLine [Sample.firstId, Sample.secondId] =
      [Sample.firstId, Sample.secondId] := Outline.sortByLine_eq_self (by decide)
  rw [Typed.accepted, h, hhits, hsort, if_neg (by decide)]
  rfl

/-- What typing into the viewer of the two loops starts with. -/
theorem start_pair : (start {} Sample.pairSession).waiting = { delay := searchDelay } ∧
    (start {} Sample.pairSession).session.outline = Sample.pairOutline ∧
    (start {} Sample.pairSession).scope = .all := by
  obtain ⟨tree, targetOrder, history, he⟩ := start_eq {} Sample.pairSession
  rw [he]
  exact ⟨rfl, rfl, rfl⟩

/-- **Accepting a keyword.** A keyword is typed where no result is active. Once it is accepted, its hits are the
active result and the cursor of the tree pane is on that of the result, which is the first hit unless the
search for the keyword fell due again right after it had: each time it goes on to the next hit, from the last
one to the first. -/
theorem accepted_keyword (context : ViewerContext) (s : Session) (before : List ViewerEvent)
    (h : ((start context s).run before).Idle) (first last : Nat) (typing : List ViewerEvent)
    (he : ∀ e ∈ typing, e.IsTyping) :
    let v := (start context s).run before
    let v' := v.run (.key first (.char '/') :: typing ++ [.key last .enter])
    let typed := ({ waiting := { delay := v.waiting.delay } } : Typed).run typing
    let hits := v.session.outline.hits typed.keyword v.scope
    (v'.session.results = if typed.keyword = "" ∨ hits = [] then {} else
      { keyword := typed.keyword
        nodes := v.session.outline.sortByLine hits
        cursor := typed.again % hits.length }) ∧
    (v'.session.results.nodes ≠ [] → v'.tree.selected? = v'.session.results.current? ∧
      (v'.session.results.cursor = 0 ↔ hits.length ∣ typed.again)) := by
  intro v v' typed hits
  have hwaiting : v.waiting = { delay := v.waiting.delay } := (poised_run context s before).waiting_eq h.mode_ne
  obtain ⟨hresults, hselected⟩ := h.run_typing ((heeded_start context s).run before) first last he
  have hactive : v'.session.results = typed.accepted v.session.outline v.scope := by
    have hlast : v'.session.results = _ := hresults
    rwa [hwaiting] at hlast
  refine ⟨hactive, fun hne => ⟨hselected hne, ?_⟩⟩
  rw [hactive, Typed.accepted] at hne ⊢
  split_ifs at hne ⊢
  · exact absurd rfl hne
  · exact Nat.dvd_iff_mod_eq_zero.symm

/-- A letter is typed, falls due once, and is accepted. -/
theorem accepted_keyword_pair :
    let typing : List ViewerEvent := [.key 10 (.char 'd'), .tick 300 []]
    (start {} Sample.pairSession).Idle ∧ (∀ e ∈ typing, e.IsTyping) ∧
    let v' := (start {} Sample.pairSession).run (.key 0 (.char '/') :: typing ++ [.key 400 .enter])
    v'.session.results = { keyword := "d", nodes := [Sample.firstId, Sample.secondId], cursor := 0 } ∧
    v'.tree.selected? = some Sample.firstId := by
  intro typing
  have hidle : (start {} Sample.pairSession).Idle := idle_start {} rfl
  have htyping : ∀ e ∈ typing, e.IsTyping := by
    simp only [typing, List.forall_mem_cons]
    exact ⟨.char 10 'd', .tick 300 (by simp), by simp⟩
  refine ⟨hidle, htyping, ?_⟩
  intro v'
  have hstart : (start {} Sample.pairSession).run [] = start {} Sample.pairSession := rfl
  obtain ⟨hresults, hselected⟩ :=
    accepted_keyword {} Sample.pairSession [] (hstart ▸ hidle) 0 400 typing htyping
  obtain ⟨hwaiting, houtline, hscope⟩ := start_pair
  rw [hstart] at hresults hselected
  rw [hwaiting, houtline, hscope] at hresults
  have haccepted : v'.session.results =
      (({ waiting := { delay := searchDelay } } : Typed).run typing).accepted Sample.pairOutline .all := hresults
  have hkeyword : (({ waiting := { delay := searchDelay } } : Typed).run typing).keyword = "d" := by
    unfold typing
    rfl
  have hagain : (({ waiting := { delay := searchDelay } } : Typed).run typing).again = 0 := by
    unfold typing
    rfl
  rw [accepted_pair hkeyword, hagain] at haccepted
  refine ⟨haccepted, ?_⟩
  have hcurrent := (hselected (by rw [haccepted]; exact List.cons_ne_nil _ _)).1
  exact hcurrent.trans (by rw [haccepted]; rfl)

/-- A letter is typed, falls due, is followed by another one that is taken back at once, and falls due again:
accepting it leads to the second hit. -/
theorem accepted_keyword_second_pair :
    let typing : List ViewerEvent :=
      [.key 10 (.char 'd'), .tick 300 [], .key 310 (.char 'o'), .key 320 .backspace, .tick 600 []]
    (start {} Sample.pairSession).Idle ∧ (∀ e ∈ typing, e.IsTyping) ∧
    let v' := (start {} Sample.pairSession).run (.key 0 (.char '/') :: typing ++ [.key 700 .enter])
    v'.session.results = { keyword := "d", nodes := [Sample.firstId, Sample.secondId], cursor := 1 } ∧
    v'.tree.selected? = some Sample.secondId := by
  intro typing
  have hidle : (start {} Sample.pairSession).Idle := idle_start {} rfl
  have htyping : ∀ e ∈ typing, e.IsTyping := by
    simp only [typing, List.forall_mem_cons]
    exact ⟨.char 10 'd', .tick 300 (by simp), .char 310 'o', .backspace 320, .tick 600 (by simp), by simp⟩
  refine ⟨hidle, htyping, ?_⟩
  intro v'
  obtain ⟨hresults, hselected⟩ := hidle.run_typing (heeded_start {} _) 0 700 htyping
  obtain ⟨hwaiting, houtline, hscope⟩ := start_pair
  have haccepted : v'.session.results =
      (({ waiting := { delay := searchDelay } } : Typed).run typing).accepted Sample.pairOutline .all := by
    rw [← hwaiting, ← houtline, ← hscope]
    exact hresults
  have hkeyword : (({ waiting := { delay := searchDelay } } : Typed).run typing).keyword = "d" := by
    unfold typing
    rfl
  have hagain : (({ waiting := { delay := searchDelay } } : Typed).run typing).again = 1 := by
    unfold typing
    rfl
  rw [accepted_pair hkeyword, hagain] at haccepted
  refine ⟨haccepted, ?_⟩
  have hcurrent := hselected (by rw [haccepted]; exact List.cons_ne_nil _ _)
  exact hcurrent.trans (by rw [haccepted]; rfl)

end Viewer

end LoopSurvey