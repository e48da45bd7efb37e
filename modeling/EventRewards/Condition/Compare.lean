import EventRewards.Condition.Definition
import EventRewards.Condition.Operator

/-!
# Comparing a logged value with an operand

The operators on presence look at the logged value alone.  The others read both values as the
definition's type; where one of them cannot be read so, or the type has no such comparison, the
answer is false.
-/

namespace EventRewards
namespace Operator

/-- What an operator says of two values that stand in an order. -/
def holdsFor : Operator → Ordering → Bool
  | .eq, o => o == .eq
  | .neq, o => o != .eq
  | .gt, o => o == .gt
  | .lt, o => o == .lt
  | .gte, o => o != .lt
  | .lte, o => o != .gt
  | _, _ => false

def compareNumbers (op : Operator) (logged operand : Literal) : Bool :=
  match logged.asNumber?, operand.asNumber? with
  | some x, some y =>
    match x.compare y with
    | some o => op.holdsFor o
    | none => false
  | _, _ => false

/-- Dates: equality is that of the days in UTC, order is that of the instants. -/
def compareDates (op : Operator) (logged operand : Literal) : Bool :=
  match logged.asInstant?, operand.asInstant? with
  | some s, some t =>
    match op with
    | .eq | .neq => op.holdsFor (Ord.compare s.day t.day)
    | _ => op.holdsFor (Ord.compare s t)
  | _, _ => false

def compareTexts (op : Operator) (logged operand : Literal) : Bool :=
  match logged.asText?, operand.asText? with
  | some s, some t =>
    match op with
    | .eq => s == t
    | .neq => s != t
    | _ => false
  | _, _ => false

def compare (type : ValueType) (op : Operator) (logged operand : Literal) : Bool :=
  match op with
  | .exists | .isNotNull => !logged.isNull
  | .isNull => logged.isNull
  | .isIn | .notIn | .unknown => false
  | .eq | .neq | .gt | .lt | .gte | .lte =>
    match type with
    | .number => compareNumbers op logged operand
    | .date => compareDates op logged operand
    | .text => compareTexts op logged operand

end Operator
end EventRewards
