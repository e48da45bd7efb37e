import EventRewards.Condition.Tree
import EventRewards.Json.Decode

/-!
# Condition trees in documents

A leaf is a record of `leftOperand`, `operator` and `rightOperand`, and a group is one of `operator`
and `conditions`.  Nothing marks which of the two a node is: what can be read as a leaf is one, and
otherwise it has to be a group.  Below the root a faulty node is refused without saying where the
fault lies.
-/

namespace EventRewards

namespace Leaf

/-- The left side of a comparison: a record of an id. -/
def decodeSubject : Decoder String := fun j => do
  let r ← Json.record "LeftOperand" [Json.field "id" Json.asText] j
  r.get "id" Json.asText

def decode : Decoder Leaf := fun j => do
  let r ← Json.record "ConditionLeaf" [Json.field "leftOperand" decodeSubject,
    Json.field "operator" Operator.decode, Json.field "rightOperand" Literal.decode] j
  return {
    conditionId := ← r.get "leftOperand" decodeSubject
    operator := ← r.get "operator" Operator.decode
    operand := ← r.get "rightOperand" Literal.decode }

def ofJson? (j : Json) : Option Leaf :=
  (decode j).toOption

def toJson (l : Leaf) : Json :=
  .obj [("leftOperand", .obj [("id", .str l.conditionId)]), ("operator", l.operator.toJson),
    ("rightOperand", l.operand.toJson)]

end Leaf

namespace Node

/-- The fields of a group that the members of an object have given so far. -/
structure Parts where
  combinator : Option Combinator
  children : Option (List Node)

def Parts.toNode? (p : Parts) : Option Node := do
  return .group (← p.combinator) (← p.children)

mutual
/-- The node that a JSON value is. -/
def ofJson? (j : Json) : Option Node :=
  match Leaf.ofJson? j with
  | some l => some (.leaf l)
  | none =>
    match j with
    | .arr [operator, .arr items] => do
      let combinator ← (Combinator.decode operator).toOption
      let children ← listOfJson? items
      return .group combinator children
    | .obj members => (partsOfMembers? members).bind Parts.toNode?
    | _ => none

def listOfJson? : List Json → Option (List Node)
  | [] => some []
  | item :: rest => do
    let first ← ofJson? item
    let others ← listOfJson? rest
    return first :: others

/-- The fields that the members of an object give a group.  Each is given once at most. -/
def partsOfMembers? : List (String × Json) → Option Parts
  | [] => some ⟨none, none⟩
  | (name, value) :: rest => do
    let parts ← partsOfMembers? rest
    if name = "operator" then
      if parts.combinator.isSome then none
      else
        let combinator ← (Combinator.decode value).toOption
        return { parts with combinator := some combinator }
    else if name = "conditions" then
      if parts.children.isSome then none
      else
        match value with
        | .arr items =>
          let children ← listOfJson? items
          return { parts with children := some children }
        | _ => none
    else return parts
end

def decode : Decoder Node := fun j =>
  match ofJson? j with
  | some node => .ok node
  | none => .error (.noVariant "ConditionNode")

mutual
def toJson : Node → Json
  | .leaf l => l.toJson
  | .group combinator children =>
    .obj [("operator", combinator.toJson), ("conditions", .arr (listToJson children))]

def listToJson : List Node → List Json
  | [] => []
  | node :: rest => toJson node :: listToJson rest
end

end Node

namespace Tree

def decode : Decoder Tree := fun j => do
  let r ← Json.record "ConditionGroup" [Json.field "operator" Combinator.decode,
    Json.field "conditions" (Json.sequence Node.decode)] j
  return {
    combinator := ← r.get "operator" Combinator.decode
    children := ← r.get "conditions" (Json.sequence Node.decode) }

def toJson (t : Tree) : Json :=
  t.root.toJson

end Tree
end EventRewards
