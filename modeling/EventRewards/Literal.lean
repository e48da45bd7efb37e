import EventRewards.Number.Decimal
import EventRewards.Number.Shortest
import EventRewards.Calendar.Rfc3339
import EventRewards.Json.Decode

/-!
# Literals

The loosely typed values that users' logs hold and conditions compare with.  In documents a literal
is plain JSON, and a date travels as its text: `Literal.date` arises inside the program only, and a
text is taken for a number or a date when one is asked for.
-/

namespace EventRewards

inductive Literal where
  | null
  | number (value : Double)
  | text (value : String)
  | list (items : List Literal)
  | date (value : Instant)

inductive LiteralKind where
  | null
  | number
  | text
  | list
  | date
  deriving DecidableEq, Repr

namespace LiteralKind

def name : LiteralKind → String
  | .null => "null"
  | .number => "number"
  | .text => "string"
  | .list => "list"
  | .date => "date"

end LiteralKind

namespace Literal

def kind : Literal → LiteralKind
  | .null => .null
  | .number _ => .number
  | .text _ => .text
  | .list _ => .list
  | .date _ => .date

def isNull : Literal → Bool
  | .null => true
  | _ => false

/-! ## Coercions -/

def asText? : Literal → Option String
  | .text s => some s
  | _ => none

/-- The number that a literal counts as: numbers themselves, texts that write one, and dates by
their milliseconds since the epoch.  NaN counts as no number. -/
def asNumber? (l : Literal) : Option Double :=
  let number? : Option Double :=
    match l with
    | .number x => some x
    | .text s => Double.ofText? (Text.trim s)
    | .date t => some (Double.ofInt t.toMillis)
    | .null => none
    | .list _ => none
  number?.filter fun x => !x.isNaN

/-- The instant that a literal counts as: dates themselves, texts that write one, and finite numbers
as milliseconds since the epoch, fractions dropped. -/
def asInstant? : Literal → Option Instant
  | .date t => some t
  | .text s => Instant.ofText? s
  | .number x => if x.isFinite then Instant.ofMillis? x.toInt64.toInt else none
  | .null => none
  | .list _ => none

/-- Dates, and texts that write one. -/
def isDateLike : Literal → Bool
  | .date _ => true
  | .text s => (Instant.ofText? s).isSome
  | _ => false

/-! ## Equality -/

mutual
/-- Equality with numbers compared as numbers. -/
def same : Literal → Literal → Bool
  | .null, .null => true
  -- so the two zeros are the same, and NaN is not the same as itself
  | .number x, .number y => x == y
  | .text s, .text t => s == t
  | .list xs, .list ys => sameItems xs ys
  | .date s, .date t => s == t
  | _, _ => false

def sameItems : List Literal → List Literal → Bool
  | [], [] => true
  | x :: xs, y :: ys => same x y && sameItems xs ys
  | _, _ => false
end

instance : BEq Literal :=
  ⟨same⟩

/-! ## Texts -/

mutual
def display : Literal → String
  | .null => "null"
  | .number x => x.plainText
  | .text s => "'" ++ s ++ "'"
  | .list items => "[" ++ Text.joinWith ", " (displayItems items) ++ "]"
  | .date t => t.toOffsetText

def displayItems : List Literal → List String
  | [] => []
  | item :: rest => display item :: displayItems rest
end

/-! ## Documents -/

mutual
/-- The JSON form; a number that is not finite has none and becomes null. -/
def toJson : Literal → Json
  | .null => .null
  | .number x => if x.isFinite then .float x else .null
  | .text s => .str s
  | .list items => .arr (itemsToJson items)
  | .date t => .str t.toText

def itemsToJson : List Literal → List Json
  | [] => []
  | item :: rest => toJson item :: itemsToJson rest
end

mutual
/-- The literal that a JSON value is: null, a number, a text, or a list of such. -/
def ofJson? : Json → Option Literal
  | .null => some .null
  | .int n => some (.number (Double.ofInt n))
  | .float x => some (.number x)
  | .str s => some (.text s)
  | .arr items => (itemsOfJson? items).map .list
  | .bool _ => none
  | .obj _ => none

def itemsOfJson? : List Json → Option (List Literal)
  | [] => some []
  | item :: rest => do
    let first ← ofJson? item
    let others ← itemsOfJson? rest
    return first :: others
end

def decode : Decoder Literal := fun j =>
  match ofJson? j with
  | some l => .ok l
  | none => .error (.noVariant "Literal")

end Literal
end EventRewards
