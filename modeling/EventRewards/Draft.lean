/-!
# Drafts

Documents may leave the id of a log or a reward out.  What is read from them is a draft, which takes
a fresh id where it has none of its own.  Fresh ids are numbered by the order in which they are
drawn.
-/

namespace EventRewards

/-- A source of ids: the id of each draw, counted from 1. -/
abbrev FreshIds := Nat → String

/-- A value that still lacks its id, and the id that its document gave, if any. -/
structure Draft (α : Type) where
  id? : Option String
  withId : String → α

namespace Draft

def complete {α : Type} (d : Draft α) (fresh : String) : α :=
  d.withId (d.id?.getD fresh)

/-- Completes drafts in their order, `drawn` ids being used up before; the number of ids used up
after them comes with the values. -/
def completeAll {α : Type} (fresh : FreshIds) (drawn : Nat) : List (Draft α) → List α × Nat
  | [] => ([], drawn)
  | d :: rest =>
    let used := if d.id?.isSome then drawn else drawn + 1
    let (values, total) := completeAll fresh used rest
    (d.complete (fresh used) :: values, total)

end Draft
end EventRewards
