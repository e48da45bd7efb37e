import EventRewards.Scenario.FlowText
import EventRewards.Scenario.Judgement

/-!
# Scenario documents

A scenario document is a mapping with `definitions`, `condition` and perhaps `logs`.  Where a field
asks for a text, any scalar will do and counts as the text that writes it; records are mappings,
never sequences.  The condition is taken as it stands.
-/

namespace EventRewards
namespace Scenario

/-- A scalar as the text that writes it. -/
def scalarText : Json → Json
  | .null => .str "null"
  | .bool b => .str (if b then "true" else "false")
  | .int n => .str (toString n)
  | .float x => .str x.jsonText
  | j => j

/-- A scalar as text, null aside. -/
def optionalText : Json → Json
  | .null => .null
  | j => scalarText j

/-- The name of a variant: a scalar as text, and nothing else. -/
def variantText : Json → Json
  | .arr _ => .null
  | .obj _ => .null
  | j => scalarText j

/-- Reads a mapping, each member of which is first seen as `view` has it. -/
def mapping {α : Type} (view : String → Json → Json) (decode : Decoder α) : Decoder α
  | .obj members => decode (.obj (members.map fun (name, value) => (name, view name value)))
  | j => .error (.wrongType j "a map")

def definitionView (name : String) : Json → Json :=
  if ["id", "fieldName", "displayName", "createdAt"].contains name then scalarText
  else if ["type", "valueType"].contains name then variantText
  else if name = "createdBy" then optionalText
  else id

def logView (name : String) : Json → Json :=
  if ["id", "userId", "fieldName", "loggedAt", "createdAt"].contains name then scalarText else id

def outline : Json.Outline :=
  .record [("definitions", .list (.ofFields Definition.fields [])), ("condition", .everything),
    ("logs", .list (.ofFields Log.fields []))]

/-- Reads a scenario; logs get fresh ids and definitions and logs the time `now` where they have
none of their own. -/
def decode (now : Instant) (fresh : FreshIds) : Decoder Scenario :=
  let definitions := Json.sequence (mapping definitionView (Definition.decode now))
  let logs := Json.sequence (mapping logView (Log.decode now))
  let condition : Decoder Json := .ok
  mapping (fun _ => id) fun j => do
    let r ← Json.record "Scenario" [Json.field "definitions" definitions,
      Json.field "condition" condition, Json.optionalField "logs" logs] j
    return {
      definitions := ← r.get "definitions" definitions
      condition := ← r.get "condition" condition
      logs := (Draft.completeAll fresh 0 ((← r.get? "logs" logs).getD [])).1 }

/-- The scenario that a JSON document gives, none where it gives none. -/
def ofDocument? (now : Instant) (fresh : FreshIds) (doc : Json) : Option Scenario := do
  let j ← FlowText.read? outline doc
  (decode now fresh j.canonical).toOption

def invalidDocument : String := "invalid scenario YAML"

def unreadableFile (path : String) : String :=
  "failed to read " ++ path

/-- What checking a document prints, and why it fails, if it does. -/
def checkDocument (now : Instant) (fresh : FreshIds) (doc : Json) : String × Option String :=
  match ofDocument? now fresh doc with
  | some s => (s.judge.text, s.judge.failure?)
  | none => ("", some invalidDocument)

end Scenario
end EventRewards
