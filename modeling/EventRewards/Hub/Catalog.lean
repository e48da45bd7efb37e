import EventRewards.Hub.Store

/-!
# Definitions and logs in the hub

Field names are unique, blanks at their ends aside.  A condition is checked against the definitions
that its leaves refer to.
-/

namespace EventRewards
namespace Store

def newDefinition (now : Instant) (fresh : FreshIds) (user : String) (input : NewDefinition) :
    Definition :=
  { id := fresh 1
    fieldName := Text.trim input.fieldName
    displayName := input.displayName
    valueType := input.valueType
    createdAt := now
    createdBy := some user }

def define (now : Instant) (fresh : FreshIds) (user : String) (input : NewDefinition) (s : Store) :
    Except Fault (Definition × Store) :=
  let fieldName := Text.trim input.fieldName
  if fieldName.isEmpty then .error (.blank .fieldName)
  else if s.definitions.any (·.fieldName == fieldName) then .error (.fieldNameTaken fieldName)
  else
    let d := newDefinition now fresh user input
    .ok (d, { s with definitions := s.definitions ++ [d] })

/-- Checks a condition against the definitions that it refers to. -/
def checkTree (s : Store) (t : Tree) : Report :=
  t.check (s.definitionsById t.conditionIds)

/-- Refuses a condition that is not sound. -/
def assertSound (s : Store) (t : Tree) : Except Fault Unit :=
  let report := s.checkTree t
  if report.isValid then .ok () else .error (.unsoundCondition report.errors)

def newLog (now : Instant) (fresh : FreshIds) (input : NewLog) : Log :=
  { id := fresh 1
    userId := input.userId
    fieldName := input.fieldName
    value := input.value
    loggedAt := now
    metadata := input.metadata }

def record (now : Instant) (fresh : FreshIds) (input : NewLog) (s : Store) :
    Except Fault (Log × Store) :=
  if Text.isBlankText input.userId || Text.isBlankText input.fieldName then .error (.blank .logKeys)
  else
    let l := newLog now fresh input
    .ok (l, { s with logs := s.logs ++ [l] })

end Store
end EventRewards
