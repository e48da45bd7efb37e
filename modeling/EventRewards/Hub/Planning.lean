import EventRewards.Hub.Catalog

/-!
# Events in the hub

An event may be changed until it starts, unless it is inactive; its rewards may be replaced at any
time.  Every version of an event has a name, a schedule in order and a sound condition.
-/

namespace EventRewards
namespace Store

/-- Refuses a schedule that does not end after its start. -/
def checkSchedule (startedAt endedAt : Instant) : Except Fault Unit :=
  if endedAt ≤ startedAt then .error .badSchedule else .ok ()

def checkName (name : String) : Except Fault Unit :=
  if Text.isBlankText name then .error (.blank .eventName) else .ok ()

def checkCondition (s : Store) (t : Tree) : Except Fault Unit :=
  if t.children.isEmpty then .error .emptyCondition else s.assertSound t

/-- The event that an input makes.  Fresh ids go to its rewards first. -/
def newEvent (now : Instant) (fresh : FreshIds) (user : String) (input : NewEvent) : Event :=
  let (rewards, drawn) := Draft.completeAll fresh 0 input.rewards
  { id := fresh (drawn + 1)
    name := input.name
    description := input.description
    status := input.status.getD .active
    startedAt := input.startedAt
    endedAt := input.endedAt
    condition := input.condition
    distribution := input.distribution
    rewards
    createdAt := now
    updatedAt := now
    createdBy := user
    updatedBy := none
    histories := [] }

def createEvent (now : Instant) (fresh : FreshIds) (user : String) (input : NewEvent) (s : Store) :
    Except Fault (Event × Store) := do
  checkName input.name
  checkSchedule input.startedAt input.endedAt
  s.checkCondition input.condition
  let e := newEvent now fresh user input
  return (e, { s with events := s.events ++ [e] })

/-- Refuses changes to events that have started or are inactive. -/
def checkUnstarted (now : Instant) (e : Event) : Except Fault Unit :=
  match e.phase now with
  | .ongoing => .error .eventOngoing
  | .ended => .error .eventEnded
  | .upcoming => if e.status = .inactive then .error .eventInactive else .ok ()

/-- The event with a change, its present version put into its histories. -/
def changedEvent (now : Instant) (fresh : FreshIds) (user : String) (change : EventChange)
    (e : Event) : Event :=
  let rewards := change.rewards.map fun drafts => (Draft.completeAll fresh 0 drafts).1
  { e with
    name := change.name.getD e.name
    -- a description can be replaced and not be removed
    description := change.description.or e.description
    startedAt := change.startedAt.getD e.startedAt
    endedAt := change.endedAt.getD e.endedAt
    condition := change.condition.getD e.condition
    distribution := change.distribution.getD e.distribution
    rewards := rewards.getD e.rewards
    updatedAt := now
    updatedBy := some user
    histories := e.histories ++ [e.toEventVersion] }

/-- Refuses a blank name where there is a new one. -/
def checkNewName : Option String → Except Fault Unit
  | some name => checkName name
  | none => .ok ()

/-- Refuses a condition that is not sound where there is another than the present one. -/
def checkNewCondition (s : Store) (present : Tree) : Option Tree → Except Fault Unit
  -- what is stored was sound when it was stored, and definitions only come in addition
  | some t => if t == present then .ok () else s.checkCondition t
  | none => .ok ()

/-- Refuses changes that an event may not take. -/
def checkChange (s : Store) (e : Event) (change : EventChange) : Except Fault Unit := do
  checkNewName change.name
  checkSchedule (change.startedAt.getD e.startedAt) (change.endedAt.getD e.endedAt)
  s.checkNewCondition e.condition change.condition

/-- Changes an event that has not started. -/
def updateEvent (now : Instant) (fresh : FreshIds) (user id : String) (change : EventChange)
    (s : Store) : Except Fault (Event × Store) := do
  let e ← s.findEvent id
  checkUnstarted now e
  s.checkChange e change
  let changed := changedEvent now fresh user change e
  return (changed, s.replaceEvent changed)

def rewardedEvent (now : Instant) (fresh : FreshIds) (user : String)
    (rewards : List (Draft Reward)) (e : Event) : Event :=
  { e with
    rewards := (Draft.completeAll fresh 0 rewards).1
    updatedAt := now
    updatedBy := some user }

def setRewards (now : Instant) (fresh : FreshIds) (user id : String)
    (rewards : List (Draft Reward)) (s : Store) : Except Fault (Event × Store) := do
  let e ← s.findEvent id
  let changed := rewardedEvent now fresh user rewards e
  return (changed, s.replaceEvent changed)

end Store
end EventRewards
