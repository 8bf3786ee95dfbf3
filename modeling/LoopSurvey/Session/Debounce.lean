/-!
# Debouncing

A debouncer holds back a value until nothing new has come for a while: each new value replaces the
one that waits and starts the delay anew.
-/

namespace LoopSurvey

/-- At most one value waits, together with the time it is due. Times are milliseconds. -/
structure Debouncer (α : Type) where
  delay : Nat
  pending : Option (Nat × α) := none
deriving DecidableEq

namespace Debouncer

/-- Lets a value wait in place of any other. -/
def schedule (d : Debouncer α) (now : Nat) (value : α) : Debouncer α :=
  { d with pending := some (now + d.delay, value) }

/-- Drops the value that waits; returns it. -/
def cancel (d : Debouncer α) : Debouncer α × Option α :=
  ({ d with pending := none }, d.pending.map (·.2))

/-- Whether a value waits. -/
def isPending (d : Debouncer α) : Bool := d.pending.isSome

/-- The time until the value that waits is due. -/
def timeLeft? (d : Debouncer α) (now : Nat) : Option Nat :=
  d.pending.map fun p => p.1 - now

/-- Takes the value that waits if it is due. -/
def takeDue (d : Debouncer α) (now : Nat) : Debouncer α × Option α :=
  match d.pending with
  | some (due, _) => if due ≤ now then d.cancel else (d, none)
  | none => (d, none)

end Debouncer

end LoopSurvey
