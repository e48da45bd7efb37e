import EventRewards.Condition.Verdict
import EventRewards.Hub.Planning

/-!
# Reward requests in the hub

A user asks for the rewards of an event while it runs.  The request is judged on the user's logs at
that time, and no user holds two open requests for one event.  Operators decide pending requests.
-/

namespace EventRewards
namespace Store

/-- The query for the logs of a user on which a request for an event is judged.  `bounded` leaves out
the logs from outside the event's schedule. -/
def eligibilityQuery (bounded : Bool) (userId : String) (e : Event)
    (definitions : List Definition) : LogQuery :=
  { userId := some userId
    fieldNames := definitions.map (·.fieldName)
    startedAt := if bounded then some e.startedAt else none
    endedAt := if bounded then some e.endedAt else none }

/-- The logs of a user on which a request for an event is judged, and whether they meet its
condition. -/
def eligibility (bounded : Bool) (userId : String) (e : Event) (s : Store) : Bool × List Log :=
  let definitions := s.definitionsById e.condition.conditionIds
  let logs := s.queryLogs (eligibilityQuery bounded userId e definitions)
  (e.condition.evaluate definitions logs, logs)

def firstStatus (eligible : Bool) (distribution : Distribution) : RequestStatus :=
  match eligible, distribution with
  | false, _ => .insufficient
  | true, .manual => .pending
  | true, .auto => .approved

/-- Refuses requests for events that are not running. -/
def checkRunning (now : Instant) (e : Event) : Except Fault Unit :=
  if e.status = .inactive then .error .eventInactive
  else
    match e.phase now with
    | .upcoming => .error .eventNotStarted
    | .ended => .error .eventEnded
    | .ongoing => .ok ()

/-- Whether a user holds an open request for an event. -/
def hasOpenRequest (s : Store) (userId eventId : String) : Bool :=
  s.requests.any fun r => r.eventId == eventId && r.userId == userId && r.status.isOpen

def newRequest (bounded : Bool) (now : Instant) (fresh : FreshIds) (userId : String) (e : Event)
    (s : Store) : RewardRequest :=
  let (eligible, logs) := s.eligibility bounded userId e
  let status := firstStatus eligible e.distribution
  { id := fresh 1
    eventId := e.id
    userId
    status
    reason := none
    determinedAt := if status = .approved then some now else none
    determinedBy := none
    receivedRewards := if status = .approved then e.rewards else []
    logs
    createdAt := now
    updatedAt := now }

def request (bounded : Bool) (now : Instant) (fresh : FreshIds) (userId eventId : String)
    (s : Store) : Except Fault (RewardRequest × Store) := do
  let e ← s.findEvent eventId
  checkRunning now e
  if s.hasOpenRequest userId e.id then .error (.alreadyRequested e.id userId)
  else
    let r := s.newRequest bounded now fresh userId e
    return (r, { s with requests := s.requests ++ [r] })

def decidedRequest (now : Instant) (operator : String) (wanted : RequestStatus)
    (reason : Option String) (rewards : List Reward) (r : RewardRequest) : RewardRequest :=
  { r with
    status := wanted
    reason
    determinedAt := some now
    determinedBy := some operator
    receivedRewards := rewards
    updatedAt := now }

/-- Moves a pending request to another status. -/
def decide (now : Instant) (operator : String) (wanted : RequestStatus) (reason : Option String)
    (rewards : List Reward) (id : String) (s : Store) : Except Fault (RewardRequest × Store) := do
  let r ← s.findRequest id
  if r.status = .pending then
    let decided := decidedRequest now operator wanted reason rewards r
    return (decided, s.replaceRequest decided)
  else .error (.notPending r.status wanted)

/-- Approves a request, which gets the rewards that its event has by now. -/
def approve (now : Instant) (operator id : String) (s : Store) :
    Except Fault (RewardRequest × Store) := do
  -- the rewards are looked up before the status is
  let r ← s.findRequest id
  let e ← s.findEvent r.eventId
  s.decide now operator .approved none e.rewards id

def reject (now : Instant) (operator id : String) (reason : Option String) (s : Store) :
    Except Fault (RewardRequest × Store) :=
  s.decide now operator .rejected reason [] id

end Store
end EventRewards
