import EventRewards.Http.Message
import EventRewards.Http.Percent

/-!
# Resources

The paths of the service and the methods that each of them takes.  Ids are kept as they stand in the
path, still escaped.  An id at the end of a path is not empty; one with more after it may be.
-/

namespace EventRewards
namespace Http

inductive Resource where
  | health
  | conditions
  | conditionCheck
  | logs
  | events
  | event (id : List Char)
  | eventRewards (id : List Char)
  | eventRequests (id : List Char)
  | requests
  | request (id : List Char)
  | approval (id : List Char)
  | rejection (id : List Char)
  deriving DecidableEq

inductive Method where
  | get
  | post
  | put
  deriving DecidableEq, Repr

namespace Resource

def ofSegments? : List (List Char) → Option Resource
  | [a] =>
    match String.ofList a with
    | "health" => some .health
    | "conditions" => some .conditions
    | "loggings" => some .logs
    | "events" => some .events
    | "reward-requests" => some .requests
    | _ => none
  | [a, b] =>
    match String.ofList a with
    | "conditions" => if b = "validate".toList then some .conditionCheck else none
    | "events" => if b.isEmpty then none else some (.event b)
    | "reward-requests" => if b.isEmpty then none else some (.request b)
    | _ => none
  | [a, b, c] =>
    match String.ofList a, String.ofList c with
    | "events", "rewards" => some (.eventRewards b)
    | "events", "reward-requests" => some (.eventRequests b)
    | "reward-requests", "approve" => some (.approval b)
    | "reward-requests", "reject" => some (.rejection b)
    | _, _ => none
  | _ => none

def ofPath? : List Char → Option Resource
  | '/' :: rest => ofSegments? (Text.splitOnChar '/' rest)
  | _ => none

def takes : Resource → Method → Bool
  | .health, m => m = .get
  | .conditions, m => m = .get || m = .post
  | .conditionCheck, m => m = .post
  | .logs, m => m = .get || m = .post
  | .events, m => m = .get || m = .post
  | .event _, m => m = .get || m = .put
  | .eventRewards _, m => m = .put
  | .eventRequests _, m => m = .post
  | .requests, m => m = .get
  | .request _, m => m = .get
  | .approval _, m => m = .post
  | .rejection _, m => m = .post

end Resource

/-- The method that a name asks for: a look at the head of a response is a look at it. -/
def Method.ofName? (name : String) : Option Method :=
  if name = "GET" || name = "HEAD" then some .get
  else if name = "POST" then some .post
  else if name = "PUT" then some .put
  else none

end Http
end EventRewards
