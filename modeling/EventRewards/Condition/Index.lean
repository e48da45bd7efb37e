import EventRewards.Condition.Definition

/-!
# Looking definitions up by id

An index holds the first definition with each id, and notes the ids that more than one definition
has.
-/

namespace EventRewards

structure DefinitionIndex where
  first : List (String × Definition)
  repeated : List String

namespace DefinitionIndex

def empty : DefinitionIndex :=
  ⟨[], []⟩

def insert (index : DefinitionIndex) (d : Definition) : DefinitionIndex :=
  match index.first.lookup d.id with
  -- the first definition with an id is the one that is found
  | some _ => { index with repeated := d.id :: index.repeated }
  | none => { index with first := index.first ++ [(d.id, d)] }

def ofList (definitions : List Definition) : DefinitionIndex :=
  definitions.foldl insert empty

/-- The first definition with an id. -/
def get? (index : DefinitionIndex) (id : String) : Option Definition :=
  index.first.lookup id

def isAmbiguous (index : DefinitionIndex) (id : String) : Bool :=
  index.repeated.contains id

end DefinitionIndex
end EventRewards
