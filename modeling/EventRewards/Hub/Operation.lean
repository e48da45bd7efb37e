import EventRewards.Hub.Granting

/-!
# Operations on the hub

Every way of using the hub is an operation, which is performed on a store at an instant, with a
source of fresh ids.  A fault leaves the store as it was.
-/

namespace EventRewards

inductive Operation where
  | define (user : String) (input : NewDefinition)
  | findDefinition (id : String)
  | findDefinitions (ids : List String)
  | listDefinitions (text : Option String)
  | checkTree (tree : Tree)
  | assertTree (tree : Tree)
  /-- Checks any JSON value against every definition. -/
  | checkDocument (document : Json)
  | record (input : NewLog)
  | queryLogs (query : LogQuery)
  | createEvent (user : String) (input : NewEvent)
  | updateEvent (user id : String) (change : EventChange)
  | setRewards (user id : String) (rewards : List (Draft Reward))
  | findEvent (id : String)
  | phase (id : String)
  | listEvents (query : EventQuery)
  | countByStatus
  | request (user eventId : String)
  | approve (user id : String)
  | reject (user id : String) (reason : Option String)
  | findRequest (id : String)
  | listRequests (query : RequestQuery)

inductive Answer where
  | definition (d : Definition)
  | definitions (ds : List Definition)
  | report (r : Report)
  | done
  | log (l : Log)
  | logs (ls : List Log)
  | event (e : Event)
  | events (es : List Event)
  | phase (p : Phase)
  | counts (cs : List (EventStatus × Nat))
  | request (r : RewardRequest)
  | requests (rs : List RewardRequest)

namespace Answer

def toJson : Answer → Json
  | .definition d => d.toJson
  | .definitions ds => .arr (ds.map Definition.toJson)
  | .report r => r.toJson
  | .done => .null
  | .log l => l.toJson
  | .logs ls => .arr (ls.map Log.toJson)
  | .event e => e.toJson
  | .events es => .arr (es.map Event.toJson)
  | .phase p => .str p.name
  | .counts cs => .obj (cs.map fun (status, n) => (status.name, .int n))
  | .request r => r.toJson
  | .requests rs => .arr (rs.map RewardRequest.toJson)

end Answer

/-- What the hub is set to do: whether only logs from within an event's schedule count for it. -/
structure HubSettings where
  boundLogs : Bool
  deriving DecidableEq, Repr

namespace Operation

/-- What is answered, together with the store that is left, for a change of the store. -/
def changing {α : Type} (answer : α → Answer) (result : Except Fault (α × Store)) :
    Except Fault (Answer × Store) :=
  result.map fun (a, s) => (answer a, s)

/-- What is answered by a look at the store, which stays as it is. -/
def reading {α : Type} (answer : α → Answer) (s : Store) (result : Except Fault α) :
    Except Fault (Answer × Store) :=
  result.map fun a => (answer a, s)

/-- The answer of an operation and the store that it leaves, or the fault on which it ends. -/
def apply (settings : HubSettings) (now : Instant) (fresh : FreshIds) (s : Store) :
    Operation → Except Fault (Answer × Store)
  | .define user input => changing .definition (s.define now fresh user input)
  | .findDefinition id => reading .definition s (s.findDefinition id)
  | .findDefinitions ids => reading .definitions s (.ok (s.definitionsById ids))
  | .listDefinitions text => reading .definitions s (.ok (s.listDefinitions text))
  | .checkTree tree => reading .report s (.ok (s.checkTree tree))
  | .assertTree tree => reading (fun _ => .done) s (s.assertSound tree)
  | .checkDocument document =>
    reading .report s (.ok (Tree.checkJson document (s.listDefinitions none)))
  | .record input => changing .log (s.record now fresh input)
  | .queryLogs query => reading .logs s (.ok (s.queryLogs query))
  | .createEvent user input => changing .event (s.createEvent now fresh user input)
  | .updateEvent user id change => changing .event (s.updateEvent now fresh user id change)
  | .setRewards user id rewards => changing .event (s.setRewards now fresh user id rewards)
  | .findEvent id => reading .event s (s.findEvent id)
  | .phase id => reading (fun e => .phase (e.phase now)) s (s.findEvent id)
  | .listEvents query => reading .events s (s.listEvents query)
  | .countByStatus => reading .counts s (.ok s.countByStatus)
  | .request user eventId =>
    changing .request (s.request settings.boundLogs now fresh user eventId)
  | .approve user id => changing .request (s.approve now user id)
  | .reject user id reason => changing .request (s.reject now user id reason)
  | .findRequest id => reading .request s (s.findRequest id)
  | .listRequests query => reading .requests s (.ok (s.listRequests query))

/-- Performs an operation: its outcome, and the store after it. -/
def perform (settings : HubSettings) (now : Instant) (fresh : FreshIds) (op : Operation)
    (s : Store) : Except Fault Answer × Store :=
  match op.apply settings now fresh s with
  | .ok (answer, left) => (.ok answer, left)
  | .error fault => (.error fault, s)

end Operation
end EventRewards
