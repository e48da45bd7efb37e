import EventRewards.Condition.Check
import EventRewards.Hub.Request

/-!
# Faults of operations

Why an operation on the hub fails.
-/

namespace EventRewards

/-- The sorts of documents that are looked up by id. -/
inductive DocumentKind where
  | condition
  | event
  | rewardRequest
  deriving DecidableEq, Repr

def DocumentKind.name : DocumentKind → String
  | .condition => "condition"
  | .event => "event"
  | .rewardRequest => "reward request"

/-- The texts of an input that must not be blank. -/
inductive RequiredText where
  | fieldName
  | logKeys
  | eventName
  deriving DecidableEq, Repr

def RequiredText.message : RequiredText → String
  | .fieldName => "fieldName must not be empty"
  | .logKeys => "userId and fieldName must not be empty"
  | .eventName => "name must not be empty"

inductive Fault where
  | notFound (kind : DocumentKind) (id : String)
  | fieldNameTaken (fieldName : String)
  | unsoundCondition (flaws : List (Finding Flaw))
  | emptyCondition
  | badSchedule
  | eventOngoing
  | eventInactive
  | eventNotStarted
  | eventEnded
  | alreadyRequested (eventId userId : String)
  | notPending (status wanted : RequestStatus)
  | blank (what : RequiredText)
  deriving DecidableEq

namespace Fault

def message : Fault → String
  | .notFound kind id => kind.name ++ " not found: " ++ id
  | .fieldNameTaken fieldName => "field name already defined: " ++ fieldName
  | .unsoundCondition _ => "event condition is invalid"
  | .emptyCondition => "event condition must contain at least one condition"
  | .badSchedule => "event start must be before its end"
  | .eventOngoing => "event is ongoing"
  | .eventInactive => "event is inactive"
  | .eventNotStarted => "event has not started yet"
  | .eventEnded => "event has already ended"
  | .alreadyRequested eventId userId =>
    "user " ++ userId ++ " already has an open reward request for event " ++ eventId
  | .notPending status wanted =>
    "cannot move reward request from " ++ status.name ++ " to " ++ wanted.name
  | .blank what => "Validation error: " ++ what.message

/-- A flaw of a condition with its place, on one line. -/
def problemText (f : Finding Flaw) : String :=
  if f.place.text.isEmpty then f.what.message else f.place.text ++ ": " ++ f.what.message

/-- The flaws of the condition that was refused. -/
def problems : Fault → List String
  | .unsoundCondition flaws => flaws.map problemText
  | _ => []

end Fault
end EventRewards
