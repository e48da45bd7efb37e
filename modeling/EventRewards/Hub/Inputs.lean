import EventRewards.Log

/-!
# What operations on definitions and logs are given

Each of these is read from a document whose optional fields may be missing.  Ids and times are not
given: the hub adds them.
-/

namespace EventRewards

structure NewDefinition where
  fieldName : String
  displayName : String
  valueType : ValueType

namespace NewDefinition

open Json in
def fields : List Field :=
  [field "fieldName" asText, field "displayName" asText, field "type" ValueType.decode]

def decode : Decoder NewDefinition := fun j => do
  let r ← Json.record "DefineConditionInput" fields j
  return {
    fieldName := ← r.get "fieldName" Json.asText
    displayName := ← r.get "displayName" Json.asText
    valueType := ← r.get "type" ValueType.decode }

end NewDefinition

structure NewLog where
  userId : String
  fieldName : String
  value : Literal
  metadata : Option (List (String × Json))

namespace NewLog

open Json in
def fields : List Field :=
  [field "userId" asText, field "fieldName" asText, field "value" Literal.decode,
    optionalField "metadata" (nullable Log.decodeMetadata)]

def decode : Decoder NewLog := fun j => do
  let r ← Json.record "RecordLogInput" fields j
  return {
    userId := ← r.get "userId" Json.asText
    fieldName := ← r.get "fieldName" Json.asText
    value := ← r.get "value" Literal.decode
    metadata := ← r.getOption "metadata" Log.decodeMetadata }

end NewLog

/-- Which logs are asked for: those of a user, of some fields, and between two bounds.  No field
names at all ask for every field. -/
structure LogQuery where
  userId : Option String
  fieldNames : List String
  startedAt : Option Instant
  endedAt : Option Instant

namespace LogQuery

def everything : LogQuery :=
  ⟨none, [], none, none⟩

open Json in
def fields : List Field :=
  [optionalField "userId" (nullable asText), optionalField "fieldNames" (sequence asText),
    optionalField "startedAt" (nullable Instant.decode),
    optionalField "endedAt" (nullable Instant.decode)]

def decode : Decoder LogQuery := fun j => do
  let r ← Json.record "LogQuery" fields j
  return {
    userId := ← r.getOption "userId" Json.asText
    fieldNames := (← r.get? "fieldNames" (Json.sequence Json.asText)).getD []
    startedAt := ← r.getOption "startedAt" Instant.decode
    endedAt := ← r.getOption "endedAt" Instant.decode }

def admits (q : LogQuery) (l : Log) : Bool :=
  q.userId.all (l.userId == ·) && (q.fieldNames.isEmpty || q.fieldNames.contains l.fieldName) &&
    l.loggedAt.isWithin q.startedAt q.endedAt

end LogQuery
end EventRewards
