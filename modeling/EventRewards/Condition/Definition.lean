import EventRewards.Literal

/-!
# Condition definitions

A definition names a dimension of user behaviour that conditions may refer to by its id.  Logs
belong to a definition by its field name, and its value type says what they are compared as.
-/

namespace EventRewards

/-- What the values logged for a definition are compared as. -/
inductive ValueType where
  | text
  | number
  | date
  deriving DecidableEq, Repr

namespace ValueType

def name : ValueType → String
  | .text => "string"
  | .number => "number"
  | .date => "date"

def all : List ValueType :=
  [.text, .number, .date]

def ofName? (s : String) : Option ValueType :=
  all.find? (·.name == s)

def unknownName (s : String) : String :=
  "unknown value type: '" ++ s ++ "'"

/-- Whether a literal may stand on the right of a comparison under this type. -/
def accepts : ValueType → Literal → Bool
  | .text, l => l.kind = .text
  | .number, l => l.kind = .number
  | .date, l => l.isDateLike

def decode : Decoder ValueType :=
  Json.enumeration (all.map fun t => (t.name, t)) none

def toJson (t : ValueType) : Json :=
  .str t.name

end ValueType

structure Definition where
  id : String
  fieldName : String
  displayName : String
  valueType : ValueType
  createdAt : Instant
  createdBy : Option String
  deriving DecidableEq

def Instant.decode : Decoder Instant
  | .str s =>
    match Instant.ofRelaxed? s.toList with
    | some t => .ok t
    | none => .error .badInstant
  | j => .error (.wrongType j "an RFC 3339 formatted date and time string")

def Instant.toJson (t : Instant) : Json :=
  .str t.toText

namespace Definition

open Json in
def fields : List Field :=
  [field "id" asText, field "fieldName" asText, field "displayName" asText,
    (field "type" ValueType.decode).orNamed "valueType",
    optionalField "createdAt" Instant.decode, optionalField "createdBy" (nullable asText)]

/-- Reads a definition; one without a time of creation was created `now`. -/
def decode (now : Instant) : Decoder Definition := fun j => do
  let r ← Json.record "ConditionDefinition" fields j
  return {
    id := ← r.get "id" Json.asText
    fieldName := ← r.get "fieldName" Json.asText
    displayName := ← r.get "displayName" Json.asText
    valueType := ← r.get "type" ValueType.decode
    createdAt := (← r.get? "createdAt" Instant.decode).getD now
    createdBy := ← r.getOption "createdBy" Json.asText }

def toJson (d : Definition) : Json :=
  .obj [("id", .str d.id), ("fieldName", .str d.fieldName), ("displayName", .str d.displayName),
    ("type", d.valueType.toJson), ("createdAt", d.createdAt.toJson),
    ("createdBy", (d.createdBy.map Json.str).getD .null)]

end Definition
end EventRewards
