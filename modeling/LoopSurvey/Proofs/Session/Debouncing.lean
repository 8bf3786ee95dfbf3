import Mathlib.Data.List.Basic
import Mathlib.Data.List.Induction
import Mathlib.Data.Set.Function
import LoopSurvey.Session.Debounce
/-!
# What a debouncer delivers

The calls to a debouncer and their replies make up its history (`Debouncer.history`). Scheduling a value, dropping what
waits and taking a value settle what waits from then on; all other calls leave the debouncer as it is. So what waits
can be told from the history alone: the value of the latest settling call if that has scheduled one, due when the delay
has passed since (`pending_after`). Whatever the clock reads at each call, the replies follow (`replies_after`), and
each delivered value comes from a call of its own that scheduled it, with nothing settled in between.
-/

namespace LoopSurvey.Debouncer

variable {α : Type}

/-- A call to a debouncer, with the time at which it is made where that matters. -/
inductive Call (α : Type)
  | schedule (now : Nat) (value : α)
  | cancel
  | takeDue (now : Nat)
  | timeLeft (now : Nat)
  | isPending

/-- What a call comes back with. -/
inductive Reply (α : Type)
  | done
  | delivered (value : Option α)
  | left (time : Option Nat)
  | waits (pending : Bool)

/-- The debouncer after a call, and the reply. -/
def answer (d : Debouncer α) : Call α → Debouncer α × Reply α
  | .schedule now value => (d.schedule now value, .done)
  | .cancel => (d.cancel.1, .delivered d.cancel.2)
  | .takeDue now => ((d.takeDue now).1, .delivered (d.takeDue now).2)
  | .timeLeft now => (d, .left (d.timeLeft? now))
  | .isPending => (d, .waits d.isPending)

/-- A call and its reply. -/
structure Event (α : Type) where
  call : Call α
  reply : Reply α

/-- The debouncer after calls, first one first. -/
def after (d : Debouncer α) (calls : List (Call α)) : Debouncer α := calls.foldl (fun d call => (d.answer call).1) d

/-- The calls with their replies. -/
def history (d : Debouncer α) : List (Call α) → List (Event α)
  | [] => []
  | call :: calls => ⟨call, (d.answer call).2⟩ :: (d.answer call).1.history calls

/-- The value that an event delivers, by dropping or by taking it. -/
def Event.delivery? : Event α → Option α
  | ⟨.cancel, .delivered value⟩ => value
  | ⟨.takeDue _, .delivered value⟩ => value
  | _ => none

/-- Whether an event settles what waits from then on: a value is scheduled, what waits is dropped, or it is taken. -/
def Event.settles : Event α → Bool
  | ⟨.schedule _ _, _⟩ => true
  | ⟨.cancel, _⟩ => true
  | ⟨.takeDue _, .delivered (some _)⟩ => true
  | _ => false

/-- The latest call that settles. -/
def latest? (events : List (Event α)) : Option (Call α) := (events.reverse.find? Event.settles).map Event.call

/-- The value that the event at a position delivers. -/
def deliveredAt? (events : List (Event α)) (j : Nat) : Option α := (events[j]?).bind Event.delivery?

/-- What is delivered at a position was scheduled at an earlier one, and nothing in between has settled anything. -/
structure ComesFrom (events : List (Event α)) (j : Nat) (value : α) (i : Nat) : Prop where
  earlier : i < j
  scheduled : ∃ start, (events[i]?).map Event.call = some (.schedule start value)
  undisturbed : ∀ k e, i < k → k < j → events[k]? = some e → e.settles = false

/-- The value that a call schedules, with the time at which it does. -/
def Call.scheduled? : Call α → Option (Nat × α)
  | .schedule now value => some (now, value)
  | _ => none

/-! ## Histories -/

theorem after_concat (d : Debouncer α) (calls : List (Call α)) (call : Call α) :
    d.after (calls ++ [call]) = ((d.after calls).answer call).1 :=
  List.foldl_concat _ _ _ _

theorem history_concat (d : Debouncer α) (calls : List (Call α)) (call : Call α) :
    d.history (calls ++ [call]) = d.history calls ++ [⟨call, ((d.after calls).answer call).2⟩] := by
  induction calls generalizing d with
  | nil => rfl
  | cons c calls ih => exact congrArg (_ :: ·) (ih _)

theorem latest?_concat (events : List (Event α)) (e : Event α) :
    latest? (events ++ [e]) = if e.settles then some e.call else latest? events := by
  unfold latest?
  rw [List.reverse_concat, List.find?_cons]
  cases e.settles <;> rfl

@[simp] theorem delay_answer (d : Debouncer α) (call : Call α) : (d.answer call).1.delay = d.delay := by
  cases call with
  | takeDue now =>
    unfold answer takeDue
    dsimp only
    split
    · split <;> rfl
    · rfl
  | schedule | cancel | timeLeft | isPending => rfl

theorem delay_after (d : Debouncer α) (calls : List (Call α)) : (d.after calls).delay = d.delay := by
  induction calls using List.reverseRecOn with
  | nil => rfl
  | append_singleton calls call ih => rw [after_concat, delay_answer, ih]

/-! ## What waits -/

theorem takeDue_cases (d : Debouncer α) (now : Nat) :
    (∃ due value, d.pending = some (due, value) ∧ due ≤ now ∧
        d.takeDue now = ({ d with pending := none }, some value)) ∨
      (∀ due value, d.pending = some (due, value) → now < due) ∧ d.takeDue now = (d, none) := by
  unfold takeDue
  split
  · next due value hp =>
    split
    · next hdue => exact Or.inl ⟨due, value, hp, hdue, by rw [cancel, hp]; rfl⟩
    · next hdue =>
      refine Or.inr ⟨fun due' value' hp' => ?_, rfl⟩
      cases hp.symm.trans hp'
      exact Nat.lt_of_not_le hdue
  · next hp => exact Or.inr ⟨fun due value hp' => (nomatch hp.symm.trans hp'), rfl⟩

/-- One call: a settling one makes wait what it schedules, if it does so, and any other leaves what waits. -/
theorem pending_answer (d : Debouncer α) (call : Call α) :
    (d.answer call).1.pending =
      if (Event.mk call (d.answer call).2).settles then
        call.scheduled?.map fun (start, value) => (start + d.delay, value)
      else d.pending := by
  cases call with
  | schedule now value => rfl
  | cancel => rfl
  | timeLeft now => rfl
  | isPending => rfl
  | takeDue now =>
    rcases d.takeDue_cases now with ⟨due, value, -, -, he⟩ | ⟨-, he⟩ <;> rw [answer, he] <;> rfl

/-- A debouncer that has just been made. -/
def idle (delay : Nat) : Debouncer α := { delay }

/-- What waits after calls is what the latest settling one has scheduled. -/
theorem pending_after (delay : Nat) (calls : List (Call α)) :
    ((idle delay).after calls).pending =
      ((latest? ((idle delay).history calls)).bind Call.scheduled?).map
        fun (start, value) => (start + delay, value) := by
  induction calls using List.reverseRecOn with
  | nil => rfl
  | append_singleton calls call ih =>
    have hdelay : ((idle delay).after calls : Debouncer α).delay = delay := delay_after _ calls
    rw [after_concat, history_concat, latest?_concat, pending_answer, hdelay]
    split
    · rfl
    · exact ih

theorem pending_after_iff {delay due : Nat} {calls : List (Call α)} {value : α} :
    ((idle delay).after calls).pending = some (due, value) ↔
      ∃ start, latest? ((idle delay).history calls) = some (.schedule start value) ∧ due = start + delay := by
  rw [pending_after]
  cases latest? ((idle delay).history calls) with
  | none => simp
  | some call => cases call <;> simp [Call.scheduled?, eq_comm, and_comm]

/-! ## What the latest settling call says -/

theorem takeDue_eq_some_iff {d : Debouncer α} {now : Nat} {value : α} :
    (d.takeDue now).2 = some value ↔ ∃ due, d.pending = some (due, value) ∧ due ≤ now := by
  rcases d.takeDue_cases now with ⟨due, value', hp, hdue, he⟩ | ⟨hp, he⟩
  · rw [he, hp]
    constructor
    · rintro ⟨⟩
      exact ⟨due, rfl, hdue⟩
    · rintro ⟨due', ⟨⟩, -⟩
      rfl
  · rw [he]
    constructor
    · rintro ⟨⟩
    · rintro ⟨due, hpending, hdue⟩
      exact absurd hdue (Nat.not_le_of_lt (hp due value hpending))

theorem cancel_eq_some_iff {d : Debouncer α} {value : α} :
    d.cancel.2 = some value ↔ ∃ due, d.pending = some (due, value) := by
  simp [cancel, Option.map_eq_some_iff]

theorem timeLeft?_eq_some_iff {d : Debouncer α} {now left : Nat} :
    d.timeLeft? now = some left ↔ ∃ due value, d.pending = some (due, value) ∧ due - now = left := by
  simp [timeLeft?, Option.map_eq_some_iff]

theorem isPending_iff {d : Debouncer α} : d.isPending = true ↔ ∃ due value, d.pending = some (due, value) := by
  simp [isPending, Option.isSome_iff_exists]

theorem timeLeft?_eq_none_iff {d : Debouncer α} {now : Nat} : d.timeLeft? now = none ↔ d.isPending = false := by
  simp [timeLeft?, isPending]

variable {delay now : Nat} {calls : List (Call α)} {value : α}

/-- A value waits and its due time has a property, or the latest settling call has scheduled it and the property holds
once the delay has passed since. -/
theorem exists_due_after_iff (P : Nat → Prop) :
    (∃ due, ((idle delay).after calls).pending = some (due, value) ∧ P due) ↔
      ∃ start, latest? ((idle delay).history calls) = some (.schedule start value) ∧ P (start + delay) := by
  simp only [pending_after_iff]
  constructor
  · rintro ⟨_, ⟨start, hlatest, rfl⟩, hdue⟩
    exact ⟨start, hlatest, hdue⟩
  · rintro ⟨start, hlatest, hdue⟩
    exact ⟨_, ⟨start, hlatest, rfl⟩, hdue⟩

theorem takeDue_after_iff : (((idle delay).after calls).takeDue now).2 = some value ↔
    ∃ start, latest? ((idle delay).history calls) = some (.schedule start value) ∧ start + delay ≤ now :=
  takeDue_eq_some_iff.trans (exists_due_after_iff (· ≤ now))

theorem cancel_after_iff : ((idle delay).after calls).cancel.2 = some value ↔
    ∃ start, latest? ((idle delay).history calls) = some (.schedule start value) := by
  rw [cancel_eq_some_iff]
  simpa only [and_true] using exists_due_after_iff fun _ => True

theorem timeLeft?_after_iff {left : Nat} : ((idle delay).after calls).timeLeft? now = some left ↔
    ∃ start value, latest? ((idle delay).history calls) = some (.schedule start value) ∧
      start + delay - now = left := by
  rw [timeLeft?_eq_some_iff, exists_comm, exists_comm (α := Nat)]
  exact exists_congr fun value => exists_due_after_iff (· - now = left)

theorem isPending_after_iff : ((idle delay).after calls).isPending = true ↔
    ∃ start value, latest? ((idle delay).history calls) = some (.schedule start value) := by
  rw [isPending_iff, exists_comm, exists_comm (α := Nat)]
  exact exists_congr fun value => cancel_eq_some_iff.symm.trans cancel_after_iff

/-! ## Where delivered values come from -/

theorem settles_of_delivery? {e : Event α} {value : α} (h : e.delivery? = some value) : e.settles = true := by
  obtain ⟨call, reply⟩ := e
  cases call with
  | cancel => rfl
  | takeDue now =>
    cases reply with
    | delivered delivered =>
      cases delivered with
      | none => cases h
      | some delivered => rfl
    | done | left | waits => cases h
  | schedule | timeLeft | isPending => cases h

/-- The latest settling call has a place in the history, and nothing settles after it. -/
theorem exists_index_of_latest? {events : List (Event α)} {call : Call α} (h : latest? events = some call) :
    ∃ i < events.length, (events[i]?).map Event.call = some call ∧
      ∀ k e, i < k → events[k]? = some e → e.settles = false := by
  obtain ⟨e, he, rfl⟩ := Option.map_eq_some_iff.1 h
  obtain ⟨-, later, earlier, hsplit, hlater⟩ := List.find?_eq_some_iff_append.1 he
  have hevents : events = earlier.reverse ++ e :: later.reverse := by
    rw [← events.reverse_reverse, hsplit]
    simp
  refine ⟨earlier.reverse.length, by rw [hevents]; simp, ?_, fun k e' hk he' => ?_⟩
  · rw [hevents, List.getElem?_append_right le_rfl, Nat.sub_self]
    rfl
  · obtain ⟨n, rfl⟩ := Nat.exists_eq_add_of_lt hk
    rw [hevents, List.getElem?_append_right (by omega), Nat.add_assoc, Nat.add_sub_cancel_left] at he'
    have hmem : e' ∈ later := List.mem_reverse.1 (List.mem_of_getElem? he')
    simpa using hlater e' hmem

theorem take_history (d : Debouncer α) (calls : List (Call α)) (j : Nat) :
    (d.history calls).take j = d.history (calls.take j) := by
  induction calls generalizing d j with
  | nil => cases j <;> rfl
  | cons call calls ih =>
    cases j with
    | zero => rfl
    | succ j => exact congrArg (_ :: ·) (ih _ j)

theorem getElem?_history (d : Debouncer α) (calls : List (Call α)) (j : Nat) :
    (d.history calls)[j]? =
      (calls[j]?).map fun call => ⟨call, ((d.after (calls.take j)).answer call).2⟩ := by
  induction calls generalizing d j with
  | nil => rfl
  | cons call calls ih =>
    cases j with
    | zero => rfl
    | succ j => exact ih _ j

/-- A delivered value is the one that waits. -/
theorem exists_pending_of_delivery? {d : Debouncer α} {call : Call α} {value : α}
    (h : (Event.mk call (d.answer call).2).delivery? = some value) : ∃ due, d.pending = some (due, value) := by
  cases call with
  | cancel => exact cancel_eq_some_iff.1 h
  | takeDue now =>
    obtain ⟨due, hp, -⟩ := takeDue_eq_some_iff.1 h
    exact ⟨due, hp⟩
  | schedule | timeLeft | isPending => cases h

/-- A delivered value comes from a call that has scheduled it. -/
theorem exists_comesFrom (delay : Nat) (calls : List (Call α)) {j : Nat} {value : α}
    (h : deliveredAt? ((idle delay).history calls) j = some value) :
    ∃ i, ComesFrom ((idle delay).history calls) j value i := by
  rw [deliveredAt?, getElem?_history] at h
  obtain ⟨e, he, hdelivery⟩ := Option.bind_eq_some_iff.1 h
  obtain ⟨call, hcall, rfl⟩ := Option.map_eq_some_iff.1 he
  obtain ⟨due, hp⟩ := exists_pending_of_delivery? hdelivery
  obtain ⟨start, hlatest, -⟩ := pending_after_iff.1 hp
  rw [← take_history] at hlatest
  obtain ⟨i, hi, hscheduled, hquiet⟩ := exists_index_of_latest? hlatest
  rw [List.length_take] at hi
  have hlt : i < j := by omega
  rw [List.getElem?_take_of_lt hlt] at hscheduled
  refine ⟨i, hlt, ⟨start, hscheduled⟩, fun k e hik hkj hk => hquiet k e hik ?_⟩
  rwa [List.getElem?_take_of_lt hkj]

/-- What is scheduled once is delivered at most once. -/
theorem ComesFrom.not_before {events : List (Event α)} {i j j' : Nat} {value value' : α}
    (h : ComesFrom events j value i) (h' : ComesFrom events j' value' i) (hj : deliveredAt? events j = some value) :
    j' ≤ j := by
  by_contra hlt
  obtain ⟨e, he, hdelivery⟩ := Option.bind_eq_some_iff.1 hj
  have hquiet := h'.undisturbed j e h.earlier (Nat.lt_of_not_le hlt) he
  rw [settles_of_delivery? hdelivery] at hquiet
  cases hquiet

/-- Each delivery has a source of its own. -/
theorem exists_sources (delay : Nat) (calls : List (Call α)) :
    ∃ source : Nat → Nat, Set.InjOn source {j | (deliveredAt? ((idle delay).history calls) j).isSome} ∧
      ∀ j value, deliveredAt? ((idle delay).history calls) j = some value →
        ComesFrom ((idle delay).history calls) j value (source j) := by
  have hsource : ∀ j, ∃ i, ∀ value, deliveredAt? ((idle delay).history calls) j = some value →
      ComesFrom ((idle delay).history calls) j value i := by
    intro j
    cases hj : deliveredAt? ((idle delay).history calls) j with
    | none => exact ⟨0, fun _ h => nomatch h⟩
    | some value =>
      obtain ⟨i, hi⟩ := exists_comesFrom delay calls hj
      exact ⟨i, fun _ h => Option.some.inj h ▸ hi⟩
  choose source hsource using hsource
  refine ⟨source, fun j hj j' hj' hsame => ?_, hsource⟩
  obtain ⟨value, hj⟩ := Option.isSome_iff_exists.1 hj
  obtain ⟨value', hj'⟩ := Option.isSome_iff_exists.1 hj'
  have hfrom : ComesFrom _ j value (source j') := hsame ▸ hsource j value hj
  have hfrom' : ComesFrom _ j' value' (source j') := hsource j' value' hj'
  exact Nat.le_antisymm (hfrom'.not_before hfrom hj') (hfrom.not_before hfrom' hj)

/-- **What a debouncer delivers.** After any calls, whatever the times at which they are made, all depends on the latest
call that scheduled a value, dropped what waited, or took a value. If it scheduled one, this waits: it is taken just if
the delay has passed since, and then no time is left, while before it is the time up to then; it is dropped at any time.
Otherwise nothing waits and nothing is taken or dropped, and only then there is no time to tell. Each delivery of a
value comes from a call of its own, which scheduled that value earlier, and no call in between has settled anything. -/
theorem replies_after (delay : Nat) (calls : List (Call α)) :
    let d := (idle delay).after calls
    let events := (idle delay).history calls
    (∀ now value, (d.takeDue now).2 = some value ↔
      ∃ start, latest? events = some (.schedule start value) ∧ start + delay ≤ now) ∧
    (∀ value, d.cancel.2 = some value ↔ ∃ start, latest? events = some (.schedule start value)) ∧
    (∀ now, d.timeLeft? now = some 0 ↔
      ∃ start value, latest? events = some (.schedule start value) ∧ start + delay ≤ now) ∧
    (∀ now left, d.timeLeft? now = some (left + 1) ↔
      ∃ start value, latest? events = some (.schedule start value) ∧ now + (left + 1) = start + delay) ∧
    (∀ now, d.timeLeft? now = none ↔ d.isPending = false) ∧
    (d.isPending = true ↔ ∃ start value, latest? events = some (.schedule start value)) ∧
    ∃ source : Nat → Nat, Set.InjOn source {j | (deliveredAt? events j).isSome} ∧
      ∀ j value, deliveredAt? events j = some value → ComesFrom events j value (source j) := by
  intro d events
  refine ⟨fun now value => takeDue_after_iff, fun value => cancel_after_iff, fun now => ?due, fun now left => ?early,
    fun now => timeLeft?_eq_none_iff, isPending_after_iff, exists_sources delay calls⟩
  case due =>
    rw [timeLeft?_after_iff]
    simp only [Nat.sub_eq_zero_iff_le]
    rfl
  case early =>
    rw [timeLeft?_after_iff]
    refine exists_congr fun start => exists_congr fun value => and_congr_right fun _ => ?_
    omega

/-- A value that is replaced before it is due is never delivered; the one in its place is, after a new delay. -/
theorem replies_after_retyped :
    let calls : List (Call Char) := [.schedule 0 'd', .schedule 150 'o', .takeDue 250, .takeDue 350, .takeDue 400]
    let events := (idle 200).history calls
    deliveredAt? events 2 = none ∧ deliveredAt? events 3 = some 'o' ∧ deliveredAt? events 4 = none ∧
      ∃ i, ComesFrom events 3 'o' i := by
  intro calls events
  obtain ⟨-, -, -, -, -, -, source, -, hsource⟩ := replies_after 200 calls
  exact ⟨rfl, rfl, rfl, source 3, hsource 3 'o' rfl⟩

end LoopSurvey.Debouncer
