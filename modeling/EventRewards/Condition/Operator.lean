import EventRewards.Json.Decode

/-!
# Operators and combinators

The comparison that a leaf of a condition makes, and the way in which a group joins its parts.  A
name that is not known stands for `unknown`, so that any stored condition can be loaded; checking
refuses it and evaluation takes it for false.
-/

namespace EventRewards

inductive Operator where
  | eq
  | neq
  | gt
  | lt
  | gte
  | lte
  | isIn
  | notIn
  | exists
  | isNull
  | isNotNull
  | unknown
  deriving DecidableEq, Repr

namespace Operator

def name : Operator → String
  | .eq => "eq"
  | .neq => "neq"
  | .gt => "gt"
  | .lt => "lt"
  | .gte => "gte"
  | .lte => "lte"
  | .isIn => "in"
  | .notIn => "nin"
  | .exists => "exists"
  | .isNull => "isNull"
  | .isNotNull => "isNotNull"
  | .unknown => "unknown"

def known : List Operator :=
  [.eq, .neq, .gt, .lt, .gte, .lte, .isIn, .notIn, .exists, .isNull, .isNotNull]

/-- Whether the operator asks which of two values is greater. -/
def isOrdering : Operator → Bool
  | .gt | .lt | .gte | .lte => true
  | _ => false

def decode : Decoder Operator :=
  Json.enumeration (known.map fun op => (op.name, op)) (some .unknown)

def toJson (op : Operator) : Json :=
  .str op.name

end Operator

/-- The way in which a group joins its parts. -/
inductive Combinator where
  | and
  | or
  | unknown
  deriving DecidableEq, Repr

namespace Combinator

def name : Combinator → String
  | .and => "and"
  | .or => "or"
  | .unknown => "unknown"

def traceName : Combinator → String
  | .and => "AND"
  | .or => "OR"
  | .unknown => "UNKNOWN"

def decode : Decoder Combinator :=
  Json.enumeration [("and", .and), ("or", .or)] (some .unknown)

def toJson (c : Combinator) : Json :=
  .str c.name

def join : Combinator → List Bool → Bool
  | .and, verdicts => verdicts.all id
  | .or, verdicts => verdicts.any id
  | .unknown, _ => false

end Combinator
end EventRewards
