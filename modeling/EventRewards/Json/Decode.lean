import EventRewards.Json.Basic
import EventRewards.Number.Shortest
import EventRewards.Text.Blank
import EventRewards.Text.Quoted

/-!
# Reading values out of JSON

A decoder takes a JSON value to a value of the domain or says what is wrong with it, and where.  The
decoders of records, enumerations and sequences are built here; each type of the domain adds its own
fields to them.

A record is an object with a member per field, in any order and with members of other names left
aside, or an array with the fields in their order, from which fields that may be missing can be left
off at the end.  Members are looked at in the order in which they stand, and the first fault counts;
fields that are missing are noticed last.
-/

namespace EventRewards

/-- What is wrong with a JSON value that does not have the form asked for. -/
inductive DecodeError where
  | wrongType (found : Json) (expected : String)
  | wrongLength (length : Nat) (expected : String)
  | tooManyItems (length : Nat)
  | missingField (name : String)
  | duplicateField (name : String)
  | unknownVariant (name : String) (known : List String)
  | notEnumeration (found : Json)
  /-- An object with no or several members; whether the first of them, if any, would have done. -/
  | notSingleKey (firstFits : Bool)
  | noVariant (type : String)
  | badInstant
  | outOfRange (found : Json) (expected : String)
  /-- A fault in a part of the value: in the item or member in a given place, counted from zero. -/
  | within (place : Nat) (error : DecodeError)

abbrev Decoder (α : Type) := Json → Except DecodeError α

namespace DecodeError

def describe : Json → String
  | .null => "null"
  | .bool b => "boolean `" ++ (if b then "true" else "false") ++ "`"
  | .int n => "integer `" ++ toString n ++ "`"
  | .float x => "floating point `" ++ x.jsonText ++ "`"
  | .str s => "string " ++ Text.quoted s
  | .arr _ => "sequence"
  | .obj _ => "map"

/-- A name as messages set it off. -/
def named (name : String) : String :=
  "`" ++ name ++ "`"

def alternatives : List String → String
  | [] => "there are no variants"
  | [a] => "expected " ++ named a
  | [a, b] => "expected " ++ named a ++ " or " ++ named b
  | names => "expected one of " ++ Text.joinWith ", " (names.map named)

def message : DecodeError → String
  | .wrongType found expected => "invalid type: " ++ describe found ++ ", expected " ++ expected
  | .wrongLength length expected =>
    "invalid length " ++ toString length ++ ", expected " ++ expected
  | .tooManyItems length =>
    "invalid length " ++ toString length ++ ", expected fewer elements in array"
  | .missingField name => "missing field " ++ named name
  | .duplicateField name => "duplicate field " ++ named name
  | .unknownVariant name known => "unknown variant " ++ named name ++ ", " ++ alternatives known
  | .notEnumeration found => "invalid type: " ++ describe found ++ ", expected string or map"
  | .notSingleKey _ => "invalid value: map, expected map with a single key"
  | .noVariant type => "data did not match any variant of untagged enum " ++ type
  | .badInstant => "invalid datetime"
  | .outOfRange found expected => "invalid value: " ++ describe found ++ ", expected " ++ expected
  | .within _ error => error.message

/-- The fault itself, without its place. -/
def cause : DecodeError → DecodeError
  | .within _ error => error.cause
  | error => error

/-- The way from the whole value to the part at fault: the places of the parts around it. -/
def trail : DecodeError → List Nat
  | .within place error => place :: error.trail
  | _ => []

end DecodeError

namespace Json

/-! ## Scalars, options and sequences -/

def asText : Decoder String
  | .str s => .ok s
  | j => .error (.wrongType j "a string")

def asNumber : Decoder Double
  | .int n => .ok (Double.ofInt n)
  | .float x => .ok x
  | j => .error (.wrongType j "f64")

def asMembers : Decoder (List (String × Json))
  | .obj members => .ok members
  | j => .error (.wrongType j "a map")

/-- Null, or what another decoder reads. -/
def nullable {α : Type} (decode : Decoder α) : Decoder (Option α)
  | .null => .ok none
  | j => (decode j).map some

/-- Reads each item of a list, from the one with the given number on. -/
def decodeItems {α : Type} (decode : Decoder α) (index : Nat) :
    List Json → Except DecodeError (List α)
  | [] => .ok []
  | item :: rest => do
    let first ← (decode item).mapError (.within index)
    let others ← decodeItems decode (index + 1) rest
    return first :: others

def sequence {α : Type} (decode : Decoder α) : Decoder (List α)
  | .arr items => decodeItems decode 0 items
  | j => .error (.wrongType j "a sequence")

/-! ## Enumerations -/

/-- The value that a name stands for. -/
def variant {α : Type} (known : List (String × α)) (other : Option α) (name : String) :
    Except DecodeError α :=
  match known.lookup name, other with
  | some value, _ => .ok value
  | none, some value => .ok value
  | none, none => .error (.unknownVariant name (known.map (·.1)))

/-- The value that a member of an object stands for: its name counts, and its value must be null. -/
def variantMember {α : Type} (known : List (String × α)) (other : Option α)
    (member : String × Json) : Except DecodeError α := do
  let chosen ← variant known other member.1
  match member.2 with
  | .null => return chosen
  | found => .error (.within 0 (.wrongType found "unit"))

/-- One of several names, given as a text or as the only member, null, of an object.  Names that
are not known stand for `other`, if there is such a value. -/
def enumeration {α : Type} (known : List (String × α)) (other : Option α) : Decoder α
  | .str name => variant known other name
  | .obj [] => .error (.notSingleKey true)
  | .obj [m] => variantMember known other m
  -- the first member is looked at before the second is noticed
  | .obj (m :: _) => .error (.notSingleKey (variantMember known other m).isOk)
  | j => .error (.notEnumeration j)

/-! ## Records -/

/-- A field of a record: its name, the other name that it goes by, whether it may be missing, and
what its value has to be like. -/
structure Field where
  name : String
  alias? : Option String
  required : Bool
  check : Json → Except DecodeError Unit

def field {α : Type} (name : String) (decode : Decoder α) : Field :=
  ⟨name, none, true, fun j => (decode j).map fun _ => ()⟩

def optionalField {α : Type} (name : String) (decode : Decoder α) : Field :=
  ⟨name, none, false, fun j => (decode j).map fun _ => ()⟩

def Field.orNamed (f : Field) (name : String) : Field :=
  { f with alias? := some name }

def Field.goesBy (f : Field) (name : String) : Bool :=
  f.name == name || f.alias? == some name

/-- The members that a record was found to have, under the names of their fields. -/
abbrev Record := List (String × Json)

/-- Takes the members of an object in, each under its field's name; `index` is the place of the
first of them. -/
def gatherMembers (fields : List Field) (found : Record) (index : Nat) :
    List (String × Json) → Except DecodeError Record
  | [] => .ok found
  | (name, value) :: rest =>
    match fields.find? (·.goesBy name) with
    -- unknown members are passed over
    | none => gatherMembers fields found (index + 1) rest
    | some f =>
      if (found.lookup f.name).isSome then .error (.duplicateField f.name)
      else
        match f.check value with
        | .error e => .error (.within index e)
        | .ok () => gatherMembers fields (found ++ [(f.name, value)]) (index + 1) rest

/-- Takes the items of an array in, each under the name of the field in its place; `shape` is what
messages call the array that was wanted. -/
def gatherItems (shape : String) (given index : Nat) :
    List Field → List Json → Except DecodeError Record
  | [], [] => .ok []
  | [], _ :: _ => .error (.tooManyItems given)
  | f :: fields, [] =>
    -- an array that is too short lacks its last fields
    if f.required then .error (.wrongLength index shape)
    else gatherItems shape given (index + 1) fields []
  | f :: fields, item :: items =>
    match f.check item with
    | .error e => .error (.within index e)
    | .ok () => do
      let rest ← gatherItems shape given (index + 1) fields items
      return (f.name, item) :: rest

/-- The first required field that a record lacks. -/
def firstMissing? (fields : List Field) (found : Record) : Option String :=
  (fields.find? fun f => f.required && (found.lookup f.name).isNone).map (·.name)

/-- The fields of a record, given as an object or as an array. -/
def record (type : String) (fields : List Field) : Decoder Record
  | .obj members => do
    let found ← gatherMembers fields [] 0 members
    match firstMissing? fields found with
    | some name => .error (.missingField name)
    | none => return found
  | .arr items =>
    let noun := if fields.length = 1 then " element" else " elements"
    let shape := "struct " ++ type ++ " with " ++ toString fields.length ++ noun
    gatherItems shape items.length 0 fields items
  | j => .error (.wrongType j ("struct " ++ type))

def Record.get {α : Type} (r : Record) (name : String) (decode : Decoder α) :
    Except DecodeError α :=
  match r.lookup name with
  | some j => decode j
  | none => .error (.missingField name)

def Record.get? {α : Type} (r : Record) (name : String) (decode : Decoder α) :
    Except DecodeError (Option α) :=
  match r.lookup name with
  | some j => (decode j).map some
  | none => .ok none

/-- The value of a field that may be missing or null. -/
def Record.getOption {α : Type} (r : Record) (name : String) (decode : Decoder α) :
    Except DecodeError (Option α) :=
  match r.lookup name with
  | some j => nullable decode j
  | none => .ok none

end Json
end EventRewards
