import EventRewards.Condition.Index
import EventRewards.Condition.TreeDocument

/-!
# Checking conditions

A condition is sound when every group has a combinator and children, and every leaf a known
operator, an id that exactly one definition has, and an operand that this definition's type accepts.
A check names every flaw with its place in the tree, in the order of the tree, and gives warnings of
comparisons that hardly do what their author wanted.
-/

namespace EventRewards

/-! ## Places -/

/-- The part of a node that a finding is about. -/
inductive NodePart where
  | operator
  | children
  | conditionId
  | operand
  deriving DecidableEq, Repr

def NodePart.name : NodePart → String
  | .operator => "operator"
  | .children => "conditions"
  | .conditionId => "leftOperand.id"
  | .operand => "rightOperand"

/-- Where a finding belongs: to the document as a whole, or to a part of the node that is reached
from the root by taking the children with these numbers. -/
inductive Place where
  | document
  | part (way : List Nat) (part : NodePart)
  deriving DecidableEq, Repr

def Place.text : Place → String
  | .document => ""
  | .part way p =>
    Text.joinWith "." (way.map (fun i => "conditions[" ++ toString i ++ "]") ++ [p.name])

/-! ## Findings -/

inductive Flaw where
  | notATree (reason : String)
  | unknownCombinator
  | noChildren
  | unknownOperator
  | emptyId
  | ambiguousId (id : String)
  | unknownId (id : String)
  | wrongOperand (expected : ValueType) (fieldName : String) (found : LiteralKind)
  deriving DecidableEq

def Flaw.message : Flaw → String
  | .notATree reason => "not a condition group: " ++ reason
  | .unknownCombinator => "group operator must be 'and' or 'or'"
  | .noChildren => "group must contain at least one condition"
  | .unknownOperator => "unrecognized condition operator"
  | .emptyId => "condition id must not be empty"
  | .ambiguousId id => "condition id '" ++ id ++ "' matches more than one definition"
  | .unknownId id => "unknown condition id '" ++ id ++ "'"
  | .wrongOperand expected fieldName found =>
    let wanted := match expected with
      | .date => "date-like"
      | other => other.name
    "expected " ++ wanted ++ " literal for condition '" ++ fieldName ++ "', got " ++ found.name

/-- What the author of a condition ought to know. -/
inductive Caution where
  | neverHolds (op : Operator)
  | explicitNullOnly
  | noOrder (op : Operator)
  deriving DecidableEq

def Caution.message : Caution → String
  | .neverHolds op => "'" ++ op.name ++ "' is not supported and always evaluates to false"
  | .explicitNullOnly => "'isNull' only matches explicitly logged null values"
  | .noOrder op =>
    "'" ++ op.name ++ "' has no ordering for string conditions and always evaluates to false"

structure Finding (α : Type) where
  place : Place
  what : α
  deriving DecidableEq

/-- What a check finds.  A flaw spoils validity, and a caution does not. -/
structure Report where
  isValid : Bool
  errors : List (Finding Flaw)
  warnings : List (Finding Caution)

namespace Report

def empty : Report :=
  ⟨true, [], []⟩

def flaw (place : Place) (what : Flaw) : Report :=
  ⟨false, [⟨place, what⟩], []⟩

def caution (place : Place) (what : Caution) : Report :=
  ⟨true, [], [⟨place, what⟩]⟩

def append (a b : Report) : Report :=
  ⟨a.isValid && b.isValid, a.errors ++ b.errors, a.warnings ++ b.warnings⟩

instance : Append Report :=
  ⟨append⟩

def findingJson (place : Place) (message : String) : Json :=
  .obj [("path", .str place.text), ("message", .str message)]

def toJson (r : Report) : Json :=
  .obj [("valid", .bool r.isValid),
    ("errors", .arr (r.errors.map fun f => findingJson f.place f.what.message)),
    ("warnings", .arr (r.warnings.map fun f => findingJson f.place f.what.message))]

end Report

/-! ## Checks -/

namespace DefinitionIndex

/-- The flaw of a leaf's id, or the definition that the leaf refers to. -/
def resolve (index : DefinitionIndex) (id : String) : Except Flaw Definition :=
  -- an empty id is a flaw even where a definition has it
  if id.isEmpty then .error .emptyId
  else if index.isAmbiguous id then .error (.ambiguousId id)
  else
    match index.get? id with
    | some d => .ok d
    | none => .error (.unknownId id)

end DefinitionIndex

namespace Leaf

/-- What is to be said of a leaf whose operand its definition's type accepts. -/
def caution? (leaf : Leaf) (type : ValueType) : Option Caution :=
  match leaf.operator with
  | .isIn | .notIn => some (.neverHolds leaf.operator)
  | .isNull => some .explicitNullOnly
  -- texts have no order
  | op => if op.isOrdering && type = .text then some (.noOrder op) else none

def checkOperator (leaf : Leaf) (way : List Nat) : Report :=
  if leaf.operator = .unknown then .flaw (.part way .operator) .unknownOperator else .empty

def checkReference (leaf : Leaf) (way : List Nat) (index : DefinitionIndex) : Report :=
  match index.resolve leaf.conditionId with
  | .error flaw => .flaw (.part way .conditionId) flaw
  | .ok d =>
    -- only a leaf that can be judged at all is cautioned about
    if d.valueType.accepts leaf.operand then
      match leaf.caution? d.valueType with
      | some caution => .caution (.part way .operator) caution
      | none => .empty
    else .flaw (.part way .operand) (.wrongOperand d.valueType d.fieldName leaf.operand.kind)

def check (leaf : Leaf) (way : List Nat) (index : DefinitionIndex) : Report :=
  leaf.checkOperator way ++ leaf.checkReference way index

end Leaf

namespace Node

/-- What is to be said of a group itself, its children aside. -/
def checkGroup (combinator : Combinator) (children : List Node) (way : List Nat) : Report :=
  (if combinator = .unknown then .flaw (.part way .operator) .unknownCombinator else .empty) ++
    (if children.isEmpty then .flaw (.part way .children) .noChildren else .empty)

mutual
def check (index : DefinitionIndex) (way : List Nat) : Node → Report
  | .leaf l => l.check way index
  | .group combinator children =>
    -- a group's own flaws come before those of its children
    checkGroup combinator children way ++ checkFrom index way 0 children

def checkFrom (index : DefinitionIndex) (way : List Nat) (number : Nat) : List Node → Report
  | [] => .empty
  | node :: rest => check index (way ++ [number]) node ++ checkFrom index way (number + 1) rest
end

end Node

namespace Tree

/-- Everything that is wrong with the tree under some definitions. -/
def check (t : Tree) (definitions : List Definition) : Report :=
  t.root.check (.ofList definitions) []

def isSound (t : Tree) (definitions : List Definition) : Bool :=
  (t.check definitions).isValid

/-- Checks any JSON value; one that is no tree at all has that as its only flaw. -/
def checkJson (j : Json) (definitions : List Definition) : Report :=
  match decode j with
  | .ok t => t.check definitions
  | .error e => .flaw .document (.notATree e.message)

end Tree
end EventRewards
