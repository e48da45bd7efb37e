import EventRewards.Json.Decode

/-!
# What is asked for of a document

An outline tells which parts of a document are asked for.  A record asks for its fields and leaves
other members aside, and what is left aside is held to fewer rules when a text is read.
-/

namespace EventRewards
namespace Json

/-- The parts of a value that are asked for. -/
inductive Outline where
  | everything
  | nothing
  /-- A list of items of one outline. -/
  | list (item : Outline)
  /-- A record, as an object or as an array: the named members and nothing else. -/
  | record (fields : List (String × Outline))

namespace Outline

/-- What is asked for of a member of an object. -/
def member (name : String) : Outline → Outline
  | .record fields => (fields.lookup name).getD .nothing
  | .nothing => .nothing
  | _ => .everything

/-- What is asked for of an item of an array. -/
def item (index : Nat) : Outline → Outline
  | .record fields => (fields[index]?.map (·.2)).getD .everything
  | .list item => item
  | .nothing => .nothing
  | .everything => .everything

/-- A record whose fields have the outlines that `inner` gives for their names and are otherwise
asked for with everything in them. -/
def ofFields (fields : List Field) (inner : List (String × Outline)) : Outline :=
  let part (name : String) : String × Outline :=
    (name, (inner.lookup name).getD .everything)
  .record ((fields.map fun f => part f.name) ++ fields.filterMap fun f => f.alias?.map part)

def isNothing : Outline → Bool
  | .nothing => true
  | _ => false

end Outline

end Json
end EventRewards
