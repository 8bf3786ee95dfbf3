import LoopSurvey.Viewer.Press
/-!
# Working offline

A service in memory: it keeps the journal and takes sources from a function. Answers wait until they
are polled. A desk is a viewer together with its service.
-/

namespace LoopSurvey

/-- A service in memory. -/
structure OfflineService where
  /-- The text of a source, by path. -/
  source? : String → Option String := fun _ => none
  /-- The failure that answers every entry, if there is one. -/
  failure : Option String := none
  /-- The entries kept, first one first. -/
  journal : List Journal.Entry := []
  /-- The answers that wait, first one first. -/
  pending : List Arrival := []

namespace OfflineService

/-- Takes a request. -/
def take (s : OfflineService) : Request → OfflineService
  | .journal entry =>
    { s with
      journal := s.journal ++ [entry]
      pending := s.pending ++ (s.failure.map .alert).toList }
  | .source request =>
    { s with pending := s.pending ++ [match s.source? request.path with
        | some text => .loaded request text
        | none => .failed request] }

/-- The answers since the last time. -/
def poll (s : OfflineService) : OfflineService × List Arrival :=
  ({ s with pending := [] }, s.pending)

end OfflineService

/-- A viewer with its service. -/
structure Desk where
  viewer : Viewer
  service : OfflineService

namespace Desk

/-- Lets the service take what a viewer asks for. -/
def handOver (d : Desk) (v : Viewer) : Desk where
  viewer := { v with outbox := [] }
  service := v.outbox.foldl OfflineService.take d.service

/-- A key, pressed at a time. -/
def press (d : Desk) (now : Nat) (key : Key) : Desk := d.handOver (d.viewer.press now key)

/-- A tick: what the viewer asks for then is answered with what has waited. -/
def tick (d : Desk) (now : Nat) : Desk :=
  let d := d.handOver (d.viewer.fireDue now)
  let (service, arrivals) := d.service.poll
  { viewer := d.viewer.receiveAll arrivals, service }

end Desk

/-- What happens to a desk. -/
inductive DeskEvent
  | key (now : Nat) (key : Key)
  | tick (now : Nat)

namespace Desk

/-- The desk after an event. -/
def step (d : Desk) : DeskEvent → Desk
  | .key now key => d.press now key
  | .tick now => d.tick now

/-- The desk after events. -/
def run (d : Desk) (events : List DeskEvent) : Desk := events.foldl step d

end Desk

end LoopSurvey
