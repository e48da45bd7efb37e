import EventRewards.Condition.Operator
import EventRewards.Literal

/-!
# Condition trees

A condition is a tree: its leaves compare what users did with literals, and its groups join their
children by a combinator.  The root of a stored condition is always a group.
-/

namespace EventRewards

/-- One comparison with the values logged for a definition. -/
structure Leaf where
  conditionId : String
  operator : Operator
  operand : Literal

inductive Node where
  | leaf (leaf : Leaf)
  | group (combinator : Combinator) (children : List Node)

structure Tree where
  combinator : Combinator
  children : List Node

namespace Leaf

/-- Equality with numbers compared as numbers. -/
instance : BEq Leaf where
  beq a b := a.conditionId == b.conditionId && a.operator == b.operator && a.operand == b.operand

end Leaf

namespace Node

mutual
/-- Equality with numbers compared as numbers. -/
def same : Node → Node → Bool
  | .leaf a, .leaf b => a == b
  | .group c as, .group d bs => c == d && sameAll as bs
  | _, _ => false

def sameAll : List Node → List Node → Bool
  | [], [] => true
  | a :: as, b :: bs => same a b && sameAll as bs
  | _, _ => false
end

mutual
/-- The leaves of a node, from left to right. -/
def leaves : Node → List Leaf
  | .leaf l => [l]
  | .group _ children => leavesAll children

def leavesAll : List Node → List Leaf
  | [] => []
  | node :: rest => leaves node ++ leavesAll rest
end

mutual
/-- Hands the leaves of a node to a visitor, from left to right, each with what the visits before it
have left. -/
def visitLeaves {σ : Type} (visit : σ → Leaf → σ) (state : σ) : Node → σ
  | .leaf l => visit state l
  | .group _ children => visitLeavesAll visit state children

def visitLeavesAll {σ : Type} (visit : σ → Leaf → σ) (state : σ) : List Node → σ
  | [] => state
  | node :: rest => visitLeavesAll visit (visitLeaves visit state node) rest
end

end Node

/-- The ids that leaves were seen to refer to, as a set and in the order in which they came. -/
structure MetIds where
  seen : List String
  ids : List String

namespace MetIds

def empty : MetIds :=
  ⟨[], []⟩

/-- Takes the id of a leaf in, unless it was seen before. -/
def note (met : MetIds) (leaf : Leaf) : MetIds :=
  if met.seen.contains leaf.conditionId then met
  else ⟨leaf.conditionId :: met.seen, met.ids ++ [leaf.conditionId]⟩

end MetIds

namespace Tree

def root (t : Tree) : Node :=
  .group t.combinator t.children

instance : BEq Tree where
  beq a b := a.root.same b.root

def leaves (t : Tree) : List Leaf :=
  t.root.leaves

/-- The ids that the leaves refer to, each once, in the order of their first occurrence. -/
def conditionIds (t : Tree) : List String :=
  (t.root.visitLeaves MetIds.note .empty).ids

end Tree
end EventRewards
