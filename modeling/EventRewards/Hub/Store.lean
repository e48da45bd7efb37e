import EventRewards.Hub.Fault
import EventRewards.Hub.Inputs

/-!
# The store

Everything that the hub keeps: definitions, logs, events and reward requests, each in the order in
which they came.  Documents other than logs are looked up by id; listings put them in an order of
their own, in which ids break ties.
-/

namespace EventRewards

structure Store where
  definitions : List Definition
  logs : List Log
  events : List Event
  requests : List RewardRequest

/-! ## Sorting -/

/-- Puts an item before the first that it may stand before. -/
def insertSorted {α : Type} (before : α → α → Bool) (a : α) : List α → List α
  | [] => [a]
  | b :: rest => if before a b then a :: b :: rest else b :: insertSorted before a rest

def sortedBy {α : Type} (before : α → α → Bool) (items : List α) : List α :=
  items.foldr (insertSorted before) []

/-- Whether one of two keys comes first: by instant, then by id. -/
def precedes (s t : Instant) (a b : String) : Bool :=
  s < t || (s.rank = t.rank && a < b)

/-- Definitions are listed oldest first. -/
def Definition.before (a b : Definition) : Bool :=
  precedes a.createdAt b.createdAt a.id b.id

/-- Events are listed with the earliest start first. -/
def Event.before (a b : Event) : Bool :=
  precedes a.startedAt b.startedAt a.id b.id

/-- Requests are listed newest first. -/
def RewardRequest.before (a b : RewardRequest) : Bool :=
  b.createdAt < a.createdAt || (a.createdAt.rank = b.createdAt.rank && a.id < b.id)

namespace Store

def empty : Store :=
  ⟨[], [], [], []⟩

/-! ## Looking up -/

def definition? (s : Store) (id : String) : Option Definition :=
  s.definitions.find? (·.id == id)

def event? (s : Store) (id : String) : Option Event :=
  s.events.find? (·.id == id)

def request? (s : Store) (id : String) : Option RewardRequest :=
  s.requests.find? (·.id == id)

def findDefinition (s : Store) (id : String) : Except Fault Definition :=
  match s.definition? id with
  | some d => .ok d
  | none => .error (.notFound .condition id)

def findEvent (s : Store) (id : String) : Except Fault Event :=
  match s.event? id with
  | some e => .ok e
  | none => .error (.notFound .event id)

def findRequest (s : Store) (id : String) : Except Fault RewardRequest :=
  match s.request? id with
  | some r => .ok r
  | none => .error (.notFound .rewardRequest id)

/-- The definitions with the given ids, in the order of these; ids that are not known are passed
over. -/
def definitionsById (s : Store) (ids : List String) : List Definition :=
  ids.filterMap s.definition?

/-! ## Listing -/

/-- The definitions whose display name holds a text, letter case aside. -/
def listDefinitions (s : Store) (text : Option String) : List Definition :=
  sortedBy Definition.before
    (s.definitions.filter fun d => text.all fun t => Text.containsFolded t d.displayName)

def queryLogs (s : Store) (q : LogQuery) : List Log :=
  s.logs.filter q.admits

/-- The events asked for.  Bounds have to be in order. -/
def listEvents (s : Store) (q : EventQuery) : Except Fault (List Event) :=
  let crossed :=
    match q.startedAt, q.endedAt with
    -- an empty span is refused like a reversed one
    | some start, some finish => decide (finish ≤ start)
    | _, _ => false
  if crossed then .error .badSchedule
  else .ok (sortedBy Event.before (s.events.filter fun e => q.admits e.toEventVersion))

def listRequests (s : Store) (q : RequestQuery) : List RewardRequest :=
  sortedBy RewardRequest.before (s.requests.filter q.admits)

/-- The number of events with each status that occurs. -/
def countByStatus (s : Store) : List (EventStatus × Nat) :=
  let count (status : EventStatus) : Nat := s.events.countP fun e => e.status = status
  (EventStatus.all.map fun status => (status, count status)).filter fun (_, n) => 0 < n

/-! ## Changing -/

/-- Puts an event in the place of the one with its id. -/
def replaceEvent (s : Store) (event : Event) : Store :=
  { s with events := s.events.map fun e => if e.id = event.id then event else e }

/-- Puts a request in the place of the one with its id. -/
def replaceRequest (s : Store) (request : RewardRequest) : Store :=
  { s with requests := s.requests.map fun r => if r.id = request.id then request else r }

end Store
end EventRewards
