import EventRewards.Condition.Definition
import EventRewards.Draft

/-!
# Logs

A log is one thing that a user was observed to do.  It belongs to the definitions with its field
name.  Logs are never changed or removed.
-/

namespace EventRewards

structure Log where
  id : String
  userId : String
  fieldName : String
  value : Literal
  loggedAt : Instant
  metadata : Option (List (String × Json))

/-- A member of an object that is left out where there is no value. -/
def Json.optionalMember (name : String) (value : Option Json) : List (String × Json) :=
  match value with
  | some j => [(name, j)]
  | none => []

/-- Whether an instant lies between two bounds, both included; a bound that is absent is open. -/
def Instant.isWithin (t : Instant) (from? to? : Option Instant) : Bool :=
  from?.all (fun bound => bound ≤ t) && to?.all (fun bound => t ≤ bound)

namespace Log

/-- Members of any kind, with those of one name reduced to the last. -/
def decodeMetadata : Decoder (List (String × Json)) := fun j =>
  (Json.asMembers j).map fun members => Json.sortMembers (Json.canonicalMembers members)

open Json in
def fields : List Field :=
  [optionalField "id" asText, field "userId" asText, field "fieldName" asText,
    field "value" Literal.decode, (optionalField "loggedAt" Instant.decode).orNamed "createdAt",
    optionalField "metadata" (nullable decodeMetadata)]

/-- Reads a log; one without a time was recorded `now`. -/
def decode (now : Instant) : Decoder (Draft Log) := fun j => do
  let r ← Json.record "LoggedEvent" fields j
  let id? ← r.get? "id" Json.asText
  let userId ← r.get "userId" Json.asText
  let fieldName ← r.get "fieldName" Json.asText
  let value ← r.get "value" Literal.decode
  let loggedAt := (← r.get? "loggedAt" Instant.decode).getD now
  let metadata ← r.getOption "metadata" decodeMetadata
  return ⟨id?, fun id => ⟨id, userId, fieldName, value, loggedAt, metadata⟩⟩

def toJson (l : Log) : Json :=
  .obj ([("id", .str l.id), ("userId", .str l.userId), ("fieldName", .str l.fieldName),
    ("value", l.value.toJson), ("loggedAt", l.loggedAt.toJson)] ++
      Json.optionalMember "metadata" (l.metadata.map .obj))

end Log
end EventRewards
