import EventRewards.Http.Percent
import EventRewards.Hub.Event
import EventRewards.Hub.Inputs
import EventRewards.Hub.Request

/-!
# Queries of requests

A query is a list of names with values.  It is read like a record of texts: names that are not known
are left aside, and a known name stands there once at most.
-/

namespace EventRewards
namespace Http

def pairOf (piece : List Char) : String × Json :=
  let (name, value) := Text.splitFirst '=' piece
  (formText name, .str (formText (value.getD [])))

/-- The names and values of a query as the members of an object. -/
def queryDocument (query : List Char) : Json :=
  .obj (((Text.splitOnChar '&' query).filter (!·.isEmpty)).map pairOf)

def readQuery {α : Type} (decode : Decoder α) (query : List Char) : Except DecodeError α :=
  decode (queryDocument query)

/-- The text that a definition's display name has to hold. -/
def decodeListing : Decoder (Option String) := fun j => do
  let r ← Json.record "ConditionsParams" [Json.optionalField "displayName" Json.asText] j
  r.get? "displayName" Json.asText

/-- The field names in a text: separated by commas, blanks around them and empty ones left out. -/
def fieldNames (text : String) : List String :=
  (((Text.splitOnChar ',' text.toList).map Text.trimChars).filter (!·.isEmpty)).map String.ofList

open Json in
def logFields : List Field :=
  [optionalField "userId" asText, optionalField "fieldNames" asText,
    optionalField "startedAt" Instant.decode, optionalField "endedAt" Instant.decode]

def decodeLogQuery : Decoder LogQuery := fun j => do
  let r ← Json.record "LoggingsParams" logFields j
  return {
    userId := ← r.get? "userId" Json.asText
    fieldNames := ((← r.get? "fieldNames" Json.asText).map fieldNames).getD []
    startedAt := ← r.get? "startedAt" Instant.decode
    endedAt := ← r.get? "endedAt" Instant.decode }

end Http
end EventRewards
