import EventRewards.Number.Double

/-!
# JSON values

A JSON value with its integers kept apart from its other numbers, and with the members of an object
in the order in which they are given.  `Json.canonical` is the form of a value in which order and
repetition of members are settled: sorted by name, the last of several with one name.
-/

namespace EventRewards

inductive Json where
  | null
  | bool (value : Bool)
  | int (value : Int)
  | float (value : Double)
  | str (value : String)
  | arr (items : List Json)
  | obj (members : List (String × Json))

namespace Json

instance : Inhabited Json :=
  ⟨.null⟩

/-- Puts a member in its place among sorted ones; one with its name gives way. -/
def insertMember (name : String) (value : Json) : List (String × Json) → List (String × Json)
  | [] => [(name, value)]
  | (other, held) :: rest =>
    if name = other then (name, value) :: rest
    else if name < other then (name, value) :: (other, held) :: rest
    else (other, held) :: insertMember name value rest

/-- Members sorted by name, the last of several with one name. -/
def sortMembers (members : List (String × Json)) : List (String × Json) :=
  members.foldl (fun sorted (name, value) => insertMember name value sorted) []

mutual
/-- The value with the members of every object in it sorted by name and each name once. -/
def canonical : Json → Json
  | .arr items => .arr (canonicalItems items)
  | .obj members => .obj (sortMembers (canonicalMembers members))
  | .null => .null
  | .bool b => .bool b
  | .int n => .int n
  | .float x => .float x
  | .str s => .str s

def canonicalItems : List Json → List Json
  | [] => []
  | item :: rest => canonical item :: canonicalItems rest

def canonicalMembers : List (String × Json) → List (String × Json)
  | [] => []
  | (name, value) :: rest => (name, canonical value) :: canonicalMembers rest
end

/-- The member of an object with a name, null where there is none. -/
def member (j : Json) (name : String) : Json :=
  match j with
  | .obj members => (members.lookup name).getD .null
  | _ => .null

end Json
end EventRewards
