import EventRewards.Hub.Event

/-!
# Reward requests

A request is a user's claim on the rewards of an event.  Its status is decided on the user's logs
when it is made; a pending request waits for an operator to approve or to reject it.
-/

namespace EventRewards

inductive RequestStatus where
  | pending
  | insufficient
  | approved
  | rejected
  deriving DecidableEq, Repr

namespace RequestStatus

def name : RequestStatus → String
  | .pending => "pending"
  | .insufficient => "insufficient"
  | .approved => "approved"
  | .rejected => "rejected"

def all : List RequestStatus :=
  [.pending, .insufficient, .approved, .rejected]

/-- Whether a request with this status keeps its user from making another for the same event. -/
def isOpen : RequestStatus → Bool
  | .pending | .approved => true
  | .insufficient | .rejected => false

def decode : Decoder RequestStatus :=
  Json.enumeration (all.map fun s => (s.name, s)) none

end RequestStatus

structure RewardRequest where
  id : String
  eventId : String
  userId : String
  status : RequestStatus
  reason : Option String
  determinedAt : Option Instant
  determinedBy : Option String
  receivedRewards : List Reward
  /-- The logs on which the request was judged. -/
  logs : List Log
  createdAt : Instant
  updatedAt : Instant

namespace RewardRequest

def toJson (r : RewardRequest) : Json :=
  .obj ([("id", .str r.id), ("eventId", .str r.eventId), ("userId", .str r.userId),
      ("status", .str r.status.name)] ++
    Json.optionalMember "reason" (r.reason.map .str) ++
    Json.optionalMember "determinedAt" (r.determinedAt.map Instant.toJson) ++
    Json.optionalMember "determinedBy" (r.determinedBy.map .str) ++
    [("receivedRewards", .arr (r.receivedRewards.map Reward.toJson)),
      ("eventUserLoggings", .arr (r.logs.map Log.toJson)), ("createdAt", r.createdAt.toJson),
      ("updatedAt", r.updatedAt.toJson)])

end RewardRequest

structure RequestQuery where
  eventId : Option String
  userId : Option String
  status : Option RequestStatus

namespace RequestQuery

def everything : RequestQuery :=
  ⟨none, none, none⟩

open Json in
def fields : List Field :=
  [optionalField "eventId" (nullable asText), optionalField "userId" (nullable asText),
    optionalField "status" (nullable RequestStatus.decode)]

def decode : Decoder RequestQuery := fun j => do
  let r ← Json.record "RewardRequestQuery" fields j
  return {
    eventId := ← r.getOption "eventId" Json.asText
    userId := ← r.getOption "userId" Json.asText
    status := ← r.getOption "status" RequestStatus.decode }

def admits (q : RequestQuery) (r : RewardRequest) : Bool :=
  q.eventId.all (r.eventId == ·) && q.userId.all (r.userId == ·) && q.status.all (r.status = ·)

end RequestQuery
end EventRewards
