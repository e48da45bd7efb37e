import EventRewards.Condition.TreeDocument
import EventRewards.Log
import EventRewards.Reward

/-!
# Events

An event runs from one instant to another and rewards the users who meet its condition.  Changes to
it before it starts leave its earlier versions behind, which have no earlier versions of their own.
-/

namespace EventRewards

inductive EventStatus where
  | active
  | inactive
  deriving DecidableEq, Repr

/-- How rewards are given out: after an operator's decision, or at once. -/
inductive Distribution where
  | manual
  | auto
  deriving DecidableEq, Repr

/-- Where an instant lies with respect to an event. -/
inductive Phase where
  | upcoming
  | ongoing
  | ended
  deriving DecidableEq, Repr

namespace EventStatus

def name : EventStatus → String
  | .active => "active"
  | .inactive => "inactive"

def all : List EventStatus :=
  [.active, .inactive]

def decode : Decoder EventStatus :=
  Json.enumeration (all.map fun s => (s.name, s)) none

end EventStatus

namespace Distribution

def name : Distribution → String
  | .manual => "manual"
  | .auto => "auto"

def decode : Decoder Distribution :=
  Json.enumeration ([manual, auto].map fun d => (d.name, d)) none

end Distribution

def Phase.name : Phase → String
  | .upcoming => "upcoming"
  | .ongoing => "ongoing"
  | .ended => "ended"

/-- An event as it stands at one time. -/
structure EventVersion where
  id : String
  name : String
  description : Option String
  status : EventStatus
  startedAt : Instant
  endedAt : Instant
  condition : Tree
  distribution : Distribution
  rewards : List Reward
  createdAt : Instant
  updatedAt : Instant
  createdBy : String
  updatedBy : Option String

/-- An event with its earlier versions, oldest first. -/
structure Event extends EventVersion where
  histories : List EventVersion

namespace EventVersion

/-- Both bounds of the schedule belong to it. -/
def phase (e : EventVersion) (now : Instant) : Phase :=
  if now < e.startedAt then .upcoming
  else if e.endedAt < now then .ended
  else .ongoing

def members (e : EventVersion) : List (String × Json) :=
  [("id", .str e.id), ("name", .str e.name)] ++
    Json.optionalMember "description" (e.description.map .str) ++
    [("status", .str e.status.name), ("startedAt", e.startedAt.toJson),
      ("endedAt", e.endedAt.toJson), ("condition", e.condition.toJson),
      ("rewardDistributionType", .str e.distribution.name),
      ("rewards", .arr (e.rewards.map Reward.toJson)), ("createdAt", e.createdAt.toJson),
      ("updatedAt", e.updatedAt.toJson), ("createdBy", .str e.createdBy)] ++
    Json.optionalMember "updatedBy" (e.updatedBy.map .str)

end EventVersion

namespace Event

def toJson (e : Event) : Json :=
  let histories : List (String × Json) :=
    if e.histories.isEmpty then []
    else [("histories", .arr (e.histories.map fun v => .obj v.members))]
  .obj (e.members ++ histories)

end Event

/-! ## What operations on events are given -/

structure NewEvent where
  name : String
  description : Option String
  startedAt : Instant
  endedAt : Instant
  condition : Tree
  distribution : Distribution
  rewards : List (Draft Reward)
  status : Option EventStatus

/-- A change to an event; what it does not give stays. -/
structure EventChange where
  name : Option String
  description : Option String
  startedAt : Option Instant
  endedAt : Option Instant
  condition : Option Tree
  distribution : Option Distribution
  rewards : Option (List (Draft Reward))

/-- Which events are asked for: those whose name holds a text, those with a status, those that start
no earlier than one bound and those that end no later than another. -/
structure EventQuery where
  name : Option String
  status : Option EventStatus
  startedAt : Option Instant
  endedAt : Option Instant

def Reward.decodeList : Decoder (List (Draft Reward)) :=
  Json.sequence Reward.decode

namespace NewEvent

open Json in
def fields : List Field :=
  [field "name" asText, optionalField "description" (nullable asText),
    field "startedAt" Instant.decode, field "endedAt" Instant.decode,
    field "condition" Tree.decode, field "rewardDistributionType" Distribution.decode,
    optionalField "rewards" Reward.decodeList,
    optionalField "status" (nullable EventStatus.decode)]

def decode : Decoder NewEvent := fun j => do
  let r ← Json.record "CreateEventInput" fields j
  return {
    name := ← r.get "name" Json.asText
    description := ← r.getOption "description" Json.asText
    startedAt := ← r.get "startedAt" Instant.decode
    endedAt := ← r.get "endedAt" Instant.decode
    condition := ← r.get "condition" Tree.decode
    distribution := ← r.get "rewardDistributionType" Distribution.decode
    rewards := (← r.get? "rewards" Reward.decodeList).getD []
    status := ← r.getOption "status" EventStatus.decode }

end NewEvent

namespace EventChange

open Json in
def fields : List Field :=
  [optionalField "name" (nullable asText), optionalField "description" (nullable asText),
    optionalField "startedAt" (nullable Instant.decode),
    optionalField "endedAt" (nullable Instant.decode),
    optionalField "condition" (nullable Tree.decode),
    optionalField "rewardDistributionType" (nullable Distribution.decode),
    optionalField "rewards" (nullable Reward.decodeList)]

def decode : Decoder EventChange := fun j => do
  let r ← Json.record "UpdateEventInput" fields j
  return {
    name := ← r.getOption "name" Json.asText
    description := ← r.getOption "description" Json.asText
    startedAt := ← r.getOption "startedAt" Instant.decode
    endedAt := ← r.getOption "endedAt" Instant.decode
    condition := ← r.getOption "condition" Tree.decode
    distribution := ← r.getOption "rewardDistributionType" Distribution.decode
    rewards := ← r.getOption "rewards" Reward.decodeList }

end EventChange

namespace EventQuery

def everything : EventQuery :=
  ⟨none, none, none, none⟩

open Json in
def fields : List Field :=
  [optionalField "name" (nullable asText), optionalField "status" (nullable EventStatus.decode),
    optionalField "startedAt" (nullable Instant.decode),
    optionalField "endedAt" (nullable Instant.decode)]

def decode : Decoder EventQuery := fun j => do
  let r ← Json.record "EventQuery" fields j
  return {
    name := ← r.getOption "name" Json.asText
    status := ← r.getOption "status" EventStatus.decode
    startedAt := ← r.getOption "startedAt" Instant.decode
    endedAt := ← r.getOption "endedAt" Instant.decode }

def admits (q : EventQuery) (e : EventVersion) : Bool :=
  q.startedAt.all (fun bound => bound ≤ e.startedAt) &&
    q.endedAt.all (fun bound => e.endedAt ≤ bound) &&
    q.status.all (fun status => e.status = status) &&
    q.name.all fun text => Text.containsFolded text e.name

end EventQuery
end EventRewards
