import EventRewards.Condition.Compare
import EventRewards.Condition.Index
import EventRewards.Condition.Tree
import EventRewards.Log

/-!
# Verdicts on conditions

Whether what a user did meets a condition.  A leaf is met when some value logged under its
definition's field passes its comparison; a leaf without a definition, or without logs, is not met.
`Tree.explain` shows the verdict of every node.
-/

namespace EventRewards

/-- The values of logs by field name, each in the order of the logs. -/
abbrev FieldValues := List (String × List Literal)

namespace FieldValues

def insert (fieldName : String) (value : Literal) : FieldValues → FieldValues
  | [] => [(fieldName, [value])]
  | (name, values) :: rest =>
    if name = fieldName then (name, values ++ [value]) :: rest
    else (name, values) :: insert fieldName value rest

def ofLogs (logs : List Log) : FieldValues :=
  logs.foldl (fun grouped log => insert log.fieldName log.value grouped) []

def get (values : FieldValues) (fieldName : String) : List Literal :=
  (values.lookup fieldName).getD []

end FieldValues

/-- What a condition is judged by: the definitions and the logged values. -/
structure Evidence where
  definitions : DefinitionIndex
  values : FieldValues

namespace Evidence

def of (definitions : List Definition) (logs : List Log) : Evidence :=
  ⟨.ofList definitions, .ofLogs logs⟩

/-! ## Verdicts -/

def meetsLeaf (e : Evidence) (leaf : Leaf) : Bool :=
  match e.definitions.get? leaf.conditionId with
  | none => false
  | some d =>
    -- one value that passes is enough
    (e.values.get d.fieldName).any fun value =>
      leaf.operator.compare d.valueType value leaf.operand

mutual
def meets (e : Evidence) : Node → Bool
  | .leaf leaf => e.meetsLeaf leaf
  | .group combinator children => combinator.join (meetsEach e children)

def meetsEach (e : Evidence) : List Node → List Bool
  | [] => []
  | node :: rest => meets e node :: meetsEach e rest
end

/-! ## Traces -/

def verdictText (verdict : Bool) : String :=
  if verdict then "true" else "false"

/-- What a leaf's trace calls the definition that it refers to. -/
def subject (e : Evidence) (leaf : Leaf) : String :=
  match e.definitions.get? leaf.conditionId with
  | some d => d.fieldName
  | none => "<unknown condition '" ++ leaf.conditionId ++ "'>"

def explainLeaf (e : Evidence) (leaf : Leaf) : String :=
  e.subject leaf ++ " " ++ leaf.operator.name ++ " " ++ leaf.operand.display ++ " = " ++
    verdictText (e.meetsLeaf leaf)

mutual
def explain (e : Evidence) : Node → String
  | .leaf leaf => e.explainLeaf leaf
  | .group combinator children =>
    combinator.traceName ++ "(" ++ Text.joinWith ", " (explainEach e children) ++ ") = " ++
      verdictText (e.meets (.group combinator children))

def explainEach (e : Evidence) : List Node → List String
  | [] => []
  | node :: rest => explain e node :: explainEach e rest
end

end Evidence

namespace Tree

def evaluate (t : Tree) (definitions : List Definition) (logs : List Log) : Bool :=
  (Evidence.of definitions logs).meets t.root

/-- The condition with the verdict of each of its nodes. -/
def explain (t : Tree) (definitions : List Definition) (logs : List Log) : String :=
  (Evidence.of definitions logs).explain t.root

end Tree
end EventRewards
