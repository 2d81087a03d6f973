import DisplayHub.Session

/-!
# Watching sessions

What can be seen of a session after a step.

Some of it is the state as it is then, some is what the step left behind, and
some is counted from the beginning. The counts of a scripted session are all
read off the calls that were written down.

## Main definitions

* `Session.callsSince`: The names of the calls of one step.
* `Session.created`, `Session.destroyed`, `Session.overlap`, …: The counts.
-/

namespace DisplayHub

namespace Session

/-- The names of the calls that a session made after an earlier point. -/
def callsSince (before after : Session) : List String :=
  (before.hub.journal.since after.hub.journal).calls.map Call.name

/-- What handlers were told after an earlier point. The plain records of a
    scripted session are kept apart. -/
def noticesSince (before after : Session) : List Notice :=
  let deliveries := (before.hub.journal.since after.hub.journal).deliveries
  let seen : List Delivery := match after.rig with
    | .scripted => deliveries.filter fun d => d.handler ≠ .record
    | _ => deliveries
  seen.map (·.notice)

/-- What the plain record holds from the beginning. -/
def recorded (s : Session) : List Notice :=
  (s.hub.journal.deliveries.filter fun d => d.handler = .record).map (·.notice)

/-- The providers that were created. -/
def created (s : Session) : Nat := s.hub.providers

/-- The providers that were released. -/
def destroyed (s : Session) : Nat := s.countCalls .destroyProvider

/-- The reports that were asked for. -/
def statusQueries (s : Session) : Nat := s.countCalls .queryStatus

/-- How many of the counted calls ever ran at once. Operations come one at a
    time, so it is one as soon as there was any. -/
def overlap (s : Session) : Nat :=
  if s.countCalls .queryStatus + s.countCalls .register + s.countCalls .unregister = 0 then 0
  else 1

end Session

end DisplayHub
