import EventRewards.Condition.Check
import EventRewards.Condition.Verdict
import EventRewards.Json.Writer

/-!
# Judging scenarios

A scenario is a condition with the definitions and the logs to judge it by.  The condition is kept
as JSON: one that is no tree still gets a report, which then carries no verdict.
-/

namespace EventRewards

structure Scenario where
  definitions : List Definition
  condition : Json
  logs : List Log

structure Judgement where
  validation : Report
  eligible : Option Bool
  explanation : Option String

namespace Scenario

def judge (s : Scenario) : Judgement :=
  let tree? := (Tree.decode s.condition).toOption
  { validation := Tree.checkJson s.condition s.definitions
    eligible := tree?.map fun t => t.evaluate s.definitions s.logs
    explanation := tree?.map fun t => t.explain s.definitions s.logs }

end Scenario

namespace Judgement

def toJson (j : Judgement) : Json :=
  .obj [("validation", j.validation.toJson),
    ("eligible", (j.eligible.map Json.bool).getD .null),
    ("explanation", (j.explanation.map Json.str).getD .null)]

def text (j : Judgement) : String :=
  j.toJson.pretty ++ "\n"

/-- Why a judged scenario fails: its condition is not sound. -/
def failure? (j : Judgement) : Option String :=
  if j.validation.isValid then none
  else some (toString j.validation.errors.length ++ " validation error(s)")

end Judgement
end EventRewards
