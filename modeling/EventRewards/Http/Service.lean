import EventRewards.Http.Body
import EventRewards.Http.Query
import EventRewards.Http.Resource
import EventRewards.Hub.Operation
import EventRewards.Settings

/-!
# The HTTP service

A request is first understood as a demand: one operation on the hub, and the status that it answers
with when it succeeds, or nothing but a response.  Ids and queries are read before the body, and the
body before the user who sends the request.  Then the operation is performed and answered.
-/

namespace EventRewards
namespace Http

def version : String := "0.1.0"

def userHeader : String := "x-user-id"

/-- What a request comes to. -/
inductive Demand where
  | health
  | perform (op : Operation) (status : Nat)
  | reply (status : Nat) (content : Content)

def errorJson (message : String) (problems : List String) : Json :=
  let details : List (String × Json) :=
    if problems.isEmpty then [] else [("problems", .arr (problems.map .str))]
  .obj (("error", .str message) :: details)

/-- A step in understanding a request, which may end with a response. -/
abbrev Understood (α : Type) := Except Demand α

def pathId (cs : List Char) : Understood String :=
  match segmentText? cs with
  | some id => .ok id
  | none => .error (.reply 400 .refusal)

def query {α : Type} (r : Request) (decode : Decoder α) : Understood α :=
  (readQuery decode r.query).mapError fun _ => .reply 400 .refusal

def body {α : Type} (r : Request) (form : BodyForm α) : Understood α :=
  (r.readBody form).mapError fun fault => .reply fault.status .refusal

/-- The user who sends a request: blanks around the name do not count, and there has to be one. -/
def actingUser (r : Request) : Understood String :=
  match ((r.header? userHeader).map Text.trim).filter (!·.isEmpty) with
  | some user => .ok user
  | none => .error (.reply 400 (.json (errorJson ("missing " ++ userHeader ++ " header") [])))

/-- What a request for a resource comes to, its method being one that the resource takes. -/
def understand (r : Request) : Resource → Method → Understood Demand
  | .health, _ => .ok .health
  | .conditions, .get => do return .perform (.listDefinitions (← query r decodeListing)) 200
  | .conditions, _ => do
    let input ← body r .newDefinition
    return .perform (.define (← actingUser r) input) 201
  | .conditionCheck, _ => do return .perform (.checkDocument (← body r .anything)) 200
  | .logs, .get => do return .perform (.queryLogs (← query r decodeLogQuery)) 200
  | .logs, _ => do return .perform (.record (← body r .newLog)) 201
  | .events, .get => do return .perform (.listEvents (← query r EventQuery.decode)) 200
  | .events, _ => do
    let input ← body r .newEvent
    return .perform (.createEvent (← actingUser r) input) 201
  | .event id, .get => do return .perform (.findEvent (← pathId id)) 200
  | .event id, _ => do
    -- path, body and user are looked at in this order
    let id ← pathId id
    let change ← body r .eventChange
    return .perform (.updateEvent (← actingUser r) id change) 200
  | .eventRewards id, _ => do
    let id ← pathId id
    let rewards ← body r .rewards
    return .perform (.setRewards (← actingUser r) id rewards) 200
  | .eventRequests id, _ => do
    let id ← pathId id
    return .perform (.request (← actingUser r) id) 201
  | .requests, _ => do return .perform (.listRequests (← query r RequestQuery.decode)) 200
  | .request id, _ => do return .perform (.findRequest (← pathId id)) 200
  | .approval id, _ => do
    let id ← pathId id
    return .perform (.approve (← actingUser r) id) 200
  | .rejection id, _ => do
    let id ← pathId id
    let reason ← body r .rejection
    return .perform (.reject (← actingUser r) id reason) 200

/-- What a request comes to.  Any request for options is answered at once. -/
def Request.demand (r : Request) : Demand :=
  if r.method = "OPTIONS" then .reply 200 .none
  else
    match Resource.ofPath? r.path with
    | none => .reply 404 .none
    | some resource =>
      match Method.ofName? r.method with
      | none => .reply 405 .none
      | some method =>
        if resource.takes method then
          match understand r resource method with
          | .ok demand => demand
          | .error demand => demand
        else .reply 405 .none

def faultStatus : Fault → Nat
  | .notFound .. => 404
  | .fieldNameTaken _ => 409
  | .alreadyRequested .. => 409
  | .notPending .. => 409
  | _ => 400

def healthJson (settings : Settings) (s : Store) : Json :=
  .obj [("status", .str "ok"), ("version", .str version), ("profile", .str settings.label),
    ("events", (Answer.counts s.countByStatus).toJson)]

def hubSettings (settings : Settings) : HubSettings :=
  ⟨settings.boundLogsToEventWindow⟩

def isHeaderValue (s : String) : Bool :=
  s.toList.all fun c => c = '\t' || (0x20 ≤ c.toNat && c.toNat ≠ 0x7F)

/-- The origins that may use responses: all of them, unless the settings name one. -/
def allowedOrigin (settings : Settings) : Option String :=
  if isHeaderValue settings.corsOrigin then
    -- a value that is no visible text is sent, and nobody can read it
    if settings.corsOrigin.toList.all isVisible then some settings.corsOrigin else none
  else some "*"

/-- Meets a demand: status and body of the response, and the store after it. -/
def Demand.meet (settings : Settings) (now : Instant) (fresh : FreshIds) (s : Store) :
    Demand → (Nat × Content) × Store
  | .health => ((200, .json (healthJson settings s)), s)
  | .reply status content => ((status, content), s)
  | .perform op status =>
    match op.perform (hubSettings settings) now fresh s with
    | (.ok answer, left) => ((status, .json answer.toJson), left)
    | (.error fault, left) =>
      ((faultStatus fault, .json (errorJson fault.message fault.problems)), left)

/-- Answers a request: the response, and the store after it. -/
def handle (settings : Settings) (now : Instant) (fresh : FreshIds) (r : Request) (s : Store) :
    Response × Store :=
  let ((status, content), left) := r.demand.meet settings now fresh s
  (⟨status, if r.method = "HEAD" then .none else content, allowedOrigin settings⟩, left)

end Http
end EventRewards
