import EventRewards.Http.Service
import EventRewards.Proofs.Http.Routes
import EventRewards.Proofs.Hub.Runs

/-!
# The service refines the hub

`Request.Asks` has one rule for each way in which a request can ask for a change of the hub: the method
and the path that it needs, the body and the id that are read from it, and the user who sends it.  No
other request changes the store, and a request that asks for a change leaves the store that the hub
leaves when it performs that one operation.  So what is true of all runs of the hub is true of the
service, whatever requests it is sent.
-/

namespace EventRewards
namespace Http

/-! ## Requests for changes -/

/-- Whether a request gives a user: its header has a value that is readable, and not blank. -/
def Request.SentBy (r : Request) (user : String) : Prop :=
  ∃ value, r.header? userHeader = some value ∧ Text.trim value = user ∧ user ≠ ""

/-- Whether a request uses a method on the path of a resource. -/
structure Request.Targets (r : Request) (method : String) (resource : Resource) : Prop where
  method : r.method = method
  fits : resource.Fits
  path : r.path = resource.fullPath

/-- The changes of the hub that a request can ask for, each with the status that tells of it. -/
inductive Request.Asks (r : Request) : Operation → Nat → Prop where
  | define {user : String} {input : NewDefinition} (target : r.Targets "POST" .conditions)
      (read : r.readBody .newDefinition = .ok input) (sent : r.SentBy user) :
      Asks r (.define user input) 201
  | record {input : NewLog} (target : r.Targets "POST" .logs)
      (read : r.readBody .newLog = .ok input) : Asks r (.record input) 201
  | createEvent {user : String} {input : NewEvent} (target : r.Targets "POST" .events)
      (read : r.readBody .newEvent = .ok input) (sent : r.SentBy user) :
      Asks r (.createEvent user input) 201
  | updateEvent {user id : String} {segment : List Char} {change : EventChange}
      (target : r.Targets "PUT" (.event segment)) (named : segmentText? segment = some id)
      (read : r.readBody .eventChange = .ok change) (sent : r.SentBy user) :
      Asks r (.updateEvent user id change) 200
  | setRewards {user id : String} {segment : List Char} {rewards : List (Draft Reward)}
      (target : r.Targets "PUT" (.eventRewards segment)) (named : segmentText? segment = some id)
      (read : r.readBody .rewards = .ok rewards) (sent : r.SentBy user) :
      Asks r (.setRewards user id rewards) 200
  | request {user id : String} {segment : List Char}
      (target : r.Targets "POST" (.eventRequests segment)) (named : segmentText? segment = some id)
      (sent : r.SentBy user) : Asks r (.request user id) 201
  | approve {user id : String} {segment : List Char}
      (target : r.Targets "POST" (.approval segment)) (named : segmentText? segment = some id)
      (sent : r.SentBy user) : Asks r (.approve user id) 200
  | reject {user id : String} {segment : List Char} {reason : Option String}
      (target : r.Targets "POST" (.rejection segment)) (named : segmentText? segment = some id)
      (read : r.readBody .rejection = .ok reason) (sent : r.SentBy user) :
      Asks r (.reject user id reason) 200

/-! ## Understanding requests -/

section Understanding

variable {α β : Type} {r : Request} {demand : Demand}

theorem pathId_eq_ok {segment : List Char} {id : String} :
    pathId segment = .ok id ↔ segmentText? segment = some id := by
  rw [pathId]
  cases segmentText? segment with
  | none => simp
  | some id' => simp

theorem body_eq_ok {form : BodyForm α} {a : α} : body r form = .ok a ↔ r.readBody form = .ok a := by
  rw [body]
  cases r.readBody form with
  | error fault => simp [Except.mapError]
  | ok a' => simp [Except.mapError]

theorem actingUser_eq_ok {user : String} : actingUser r = .ok user ↔ r.SentBy user := by
  rw [actingUser, Request.SentBy]
  cases r.header? userHeader with
  | none => simp
  | some value =>
    by_cases h : Text.trim value = ""
    · have hnone : (some (Text.trim value)).filter (!·.isEmpty) = none := by simp [h]
      simp only [Option.map_some, hnone]
      constructor
      · intro hrefused
        cases hrefused
      · rintro ⟨_, hvalue, huser, hnamed⟩
        cases hvalue
        exact absurd (huser.symm.trans h) hnamed
    · have hsome : (some (Text.trim value)).filter (!·.isEmpty) = some (Text.trim value) := by
        simp [h]
      simp only [Option.map_some, hsome]
      constructor
      · intro haccepted
        have huser : Text.trim value = user := Except.ok.inj haccepted
        exact ⟨value, rfl, huser, huser ▸ h⟩
      · rintro ⟨_, hvalue, huser, _⟩
        cases hvalue
        exact congrArg Except.ok huser

/-- Whether all that keeps a request from being understood is answered without a look at the hub. -/
def Refuses (x : Understood α) : Prop :=
  ∀ demand, x = .error demand → ∃ status content, demand = .reply status content

theorem refuses_pure (a : α) : Refuses (pure a) := by
  intro demand h
  cases h

theorem Refuses.bind {x : Understood α} {next : α → Understood β} (hx : Refuses x)
    (hnext : ∀ a, Refuses (next a)) : Refuses (x >>= next) := by
  intro demand h
  cases x with
  | ok a => exact hnext a demand h
  | error demand' =>
    have heq : demand' = demand := Except.error.inj h
    exact hx demand (congrArg Except.error heq)

theorem refuses_pathId (segment : List Char) : Refuses (pathId segment) := by
  intro demand h
  rw [pathId] at h
  cases hid : segmentText? segment with
  | some id => simp [hid] at h
  | none =>
    simp only [hid, Except.error.injEq] at h
    exact ⟨400, .refusal, h.symm⟩

theorem refuses_query (decode : Decoder α) : Refuses (query r decode) := by
  intro demand h
  rw [query] at h
  cases hread : readQuery decode r.query with
  | ok a => simp [hread, Except.mapError] at h
  | error fault =>
    simp only [hread, Except.mapError, Except.error.injEq] at h
    exact ⟨400, .refusal, h.symm⟩

theorem refuses_body (form : BodyForm α) : Refuses (body r form) := by
  intro demand h
  rw [body] at h
  cases hread : r.readBody form with
  | ok a => simp [hread, Except.mapError] at h
  | error fault =>
    simp only [hread, Except.mapError, Except.error.injEq] at h
    exact ⟨fault.status, .refusal, h.symm⟩

theorem refuses_actingUser : Refuses (actingUser r) := by
  intro demand h
  rw [actingUser] at h
  split at h
  · cases h
  · exact ⟨_, _, (Except.error.inj h).symm⟩

/-- What is refused on the way to an operation is refused without performing it. -/
theorem refuses_understand (resource : Resource) (method : Method) :
    Refuses (understand r resource method) := by
  cases resource with
  | health => exact refuses_pure _
  | conditions =>
    cases method with
    | get => exact (refuses_query _).bind fun _ => refuses_pure _
    | _ => exact (refuses_body _).bind fun _ => refuses_actingUser.bind fun _ => refuses_pure _
  | conditionCheck => exact (refuses_body _).bind fun _ => refuses_pure _
  | logs =>
    cases method with
    | get => exact (refuses_query _).bind fun _ => refuses_pure _
    | _ => exact (refuses_body _).bind fun _ => refuses_pure _
  | events =>
    cases method with
    | get => exact (refuses_query _).bind fun _ => refuses_pure _
    | _ => exact (refuses_body _).bind fun _ => refuses_actingUser.bind fun _ => refuses_pure _
  | event id =>
    cases method with
    | get => exact (refuses_pathId _).bind fun _ => refuses_pure _
    | _ =>
      exact (refuses_pathId _).bind fun _ => (refuses_body _).bind fun _ =>
        refuses_actingUser.bind fun _ => refuses_pure _
  | eventRewards id | rejection id =>
    exact (refuses_pathId _).bind fun _ => (refuses_body _).bind fun _ =>
      refuses_actingUser.bind fun _ => refuses_pure _
  | eventRequests id | approval id =>
    exact (refuses_pathId _).bind fun _ => refuses_actingUser.bind fun _ => refuses_pure _
  | requests => exact (refuses_query _).bind fun _ => refuses_pure _
  | request id => exact (refuses_pathId _).bind fun _ => refuses_pure _

/-! ## Requests and what they ask for -/

theorem ofName?_eq_post {name : String} : Method.ofName? name = some .post ↔ name = "POST" := by
  grind [Method.ofName?]

theorem ofName?_eq_put {name : String} : Method.ofName? name = some .put ↔ name = "PUT" := by
  grind [Method.ofName?]

/-- What it takes for a request to come to an operation. -/
theorem demand_eq_perform {op : Operation} {status : Nat} :
    r.demand = .perform op status ↔
      r.method ≠ "OPTIONS" ∧ ∃ resource method, Resource.ofPath? r.path = some resource ∧
        Method.ofName? r.method = some method ∧ resource.takes method = true ∧
        understand r resource method = .ok (.perform op status) := by
  rw [Request.demand]
  by_cases hoptions : r.method = "OPTIONS"
  · simp [hoptions]
  · cases hpath : Resource.ofPath? r.path with
    | none => simp [hoptions]
    | some resource =>
      cases hmethod : Method.ofName? r.method with
      | none => simp [hoptions]
      | some method =>
        by_cases htakes : resource.takes method = true
        · cases hunderstood : understand r resource method with
          | ok demand => simp [hoptions, htakes, hunderstood]
          | error demand =>
            rcases refuses_understand resource method demand hunderstood with ⟨_, _, hreply⟩
            simp [hoptions, htakes, hunderstood, hreply]
        · simp [hoptions, htakes]

section Asks

variable {resource : Resource} {op : Operation} {status : Nat}

/-- What a request with any method but `POST` and `PUT` comes to is a look at the hub. -/
theorem looks_of_get (takes : resource.takes .get = true)
    (h : understand r resource .get = .ok (.perform op status)) : op.looks = true := by
  cases resource with
  | health => cases h
  | conditions | logs | events | requests | event id | request id =>
    simp only [understand, bind_eq_ok, pure_eq_ok] at h
    rcases h with ⟨_, _, hdemand⟩
    cases hdemand
    rfl
  | _ => cases takes

/-- A change of the hub is understood from nothing but a request that asks for it. -/
theorem asks_of_post (fits : resource.Fits) (path : resource.fullPath = r.path)
    (post : r.method = "POST") (takes : resource.takes .post = true)
    (h : understand r resource .post = .ok (.perform op status)) (changes : op.looks = false) :
    r.Asks op status := by
  have htarget : r.Targets "POST" resource := ⟨post, fits, path.symm⟩
  cases resource with
  | conditions =>
    simp only [understand, bind_eq_ok, pure_eq_ok, body_eq_ok, actingUser_eq_ok] at h
    rcases h with ⟨input, hread, user, hsent, hdemand⟩
    cases hdemand
    exact .define htarget hread hsent
  | conditionCheck =>
    simp only [understand, bind_eq_ok, pure_eq_ok] at h
    rcases h with ⟨_, _, hdemand⟩
    cases hdemand
    cases changes
  | logs =>
    simp only [understand, bind_eq_ok, pure_eq_ok, body_eq_ok] at h
    rcases h with ⟨input, hread, hdemand⟩
    cases hdemand
    exact .record htarget hread
  | events =>
    simp only [understand, bind_eq_ok, pure_eq_ok, body_eq_ok, actingUser_eq_ok] at h
    rcases h with ⟨input, hread, user, hsent, hdemand⟩
    cases hdemand
    exact .createEvent htarget hread hsent
  | eventRequests segment =>
    simp only [understand, bind_eq_ok, pure_eq_ok, pathId_eq_ok, actingUser_eq_ok] at h
    rcases h with ⟨id, hnamed, user, hsent, hdemand⟩
    cases hdemand
    exact .request htarget hnamed hsent
  | approval segment =>
    simp only [understand, bind_eq_ok, pure_eq_ok, pathId_eq_ok, actingUser_eq_ok] at h
    rcases h with ⟨id, hnamed, user, hsent, hdemand⟩
    cases hdemand
    exact .approve htarget hnamed hsent
  | rejection segment =>
    simp only [understand, bind_eq_ok, pure_eq_ok, pathId_eq_ok, body_eq_ok, actingUser_eq_ok] at h
    rcases h with ⟨id, hnamed, reason, hread, user, hsent, hdemand⟩
    cases hdemand
    exact .reject htarget hnamed hread hsent
  | _ => cases takes

theorem asks_of_put (fits : resource.Fits) (path : resource.fullPath = r.path)
    (put : r.method = "PUT") (takes : resource.takes .put = true)
    (h : understand r resource .put = .ok (.perform op status)) : r.Asks op status := by
  have htarget : r.Targets "PUT" resource := ⟨put, fits, path.symm⟩
  cases resource with
  | event segment =>
    simp only [understand, bind_eq_ok, pure_eq_ok, pathId_eq_ok, body_eq_ok, actingUser_eq_ok] at h
    rcases h with ⟨id, hnamed, change, hread, user, hsent, hdemand⟩
    cases hdemand
    exact .updateEvent htarget hnamed hread hsent
  | eventRewards segment =>
    simp only [understand, bind_eq_ok, pure_eq_ok, pathId_eq_ok, body_eq_ok, actingUser_eq_ok] at h
    rcases h with ⟨id, hnamed, rewards, hread, user, hsent, hdemand⟩
    cases hdemand
    exact .setRewards htarget hnamed hread hsent
  | _ => cases takes

theorem demand_of_target {name : String} {method : Method} {resource : Resource}
    (target : r.Targets name resource) (known : Method.ofName? name = some method)
    (options : name ≠ "OPTIONS") (takes : resource.takes method = true)
    (understood : understand r resource method = .ok (.perform op status)) :
    r.demand = .perform op status := by
  have hpath : Resource.ofPath? r.path = some resource :=
    Resource.ofPath?_eq_some.2 ⟨target.fits, target.path.symm⟩
  have hname := target.method
  exact demand_eq_perform.2
    ⟨hname ▸ options, resource, method, hpath, hname ▸ known, takes, understood⟩

/-- A request comes to a change of the hub exactly when it asks for it. -/
theorem demand_iff_asks :
    r.demand = .perform op status ∧ op.looks = false ↔ r.Asks op status := by
  constructor
  · rintro ⟨hdemand, hchanges⟩
    rcases demand_eq_perform.1 hdemand with
      ⟨_, resource, method, hpath, hmethod, htakes, hunderstood⟩
    rcases Resource.ofPath?_eq_some.1 hpath with ⟨hfits, hfull⟩
    cases method with
    | get =>
      rw [looks_of_get htakes hunderstood] at hchanges
      cases hchanges
    | post => exact asks_of_post hfits hfull (ofName?_eq_post.1 hmethod) htakes hunderstood hchanges
    | put => exact asks_of_put hfits hfull (ofName?_eq_put.1 hmethod) htakes hunderstood
  · intro h
    have hpost : Method.ofName? "POST" = some .post := ofName?_eq_post.2 rfl
    have hput : Method.ofName? "PUT" = some .put := ofName?_eq_put.2 rfl
    cases h with
    | define target read sent =>
      refine ⟨demand_of_target target hpost (by decide) rfl ?_, rfl⟩
      simp only [understand, body_eq_ok.2 read, actingUser_eq_ok.2 sent]
      rfl
    | record target read =>
      refine ⟨demand_of_target target hpost (by decide) rfl ?_, rfl⟩
      simp only [understand, body_eq_ok.2 read]
      rfl
    | createEvent target read sent =>
      refine ⟨demand_of_target target hpost (by decide) rfl ?_, rfl⟩
      simp only [understand, body_eq_ok.2 read, actingUser_eq_ok.2 sent]
      rfl
    | updateEvent target named read sent =>
      refine ⟨demand_of_target target hput (by decide) rfl ?_, rfl⟩
      simp only [understand, pathId_eq_ok.2 named, body_eq_ok.2 read, actingUser_eq_ok.2 sent]
      rfl
    | setRewards target named read sent =>
      refine ⟨demand_of_target target hput (by decide) rfl ?_, rfl⟩
      simp only [understand, pathId_eq_ok.2 named, body_eq_ok.2 read, actingUser_eq_ok.2 sent]
      rfl
    | request target named sent =>
      refine ⟨demand_of_target target hpost (by decide) rfl ?_, rfl⟩
      simp only [understand, pathId_eq_ok.2 named, actingUser_eq_ok.2 sent]
      rfl
    | approve target named sent =>
      refine ⟨demand_of_target target hpost (by decide) rfl ?_, rfl⟩
      simp only [understand, pathId_eq_ok.2 named, actingUser_eq_ok.2 sent]
      rfl
    | reject target named read sent =>
      refine ⟨demand_of_target target hpost (by decide) rfl ?_, rfl⟩
      simp only [understand, pathId_eq_ok.2 named, body_eq_ok.2 read, actingUser_eq_ok.2 sent]
      rfl

end Asks

end Understanding

/-! ## Answering requests -/

section Answering

variable {settings : Settings} {now : Instant} {fresh : FreshIds} {r : Request} {s : Store}
  {op : Operation} {status : Nat}

theorem meet_perform_of_ok {answer : Answer} {left : Store}
    (h : op.perform (hubSettings settings) now fresh s = (.ok answer, left)) :
    (Demand.perform op status).meet settings now fresh s =
      ((status, .json answer.toJson), left) := by
  rw [Demand.meet, h]

theorem meet_perform_of_error {fault : Fault} {left : Store}
    (h : op.perform (hubSettings settings) now fresh s = (.error fault, left)) :
    (Demand.perform op status).meet settings now fresh s =
      ((faultStatus fault, .json (errorJson fault.message fault.problems)), left) := by
  rw [Demand.meet, h]

/-- A demand for an operation leaves the store that the operation leaves. -/
theorem meet_perform_left :
    ((Demand.perform op status).meet settings now fresh s).2 =
      (op.perform (hubSettings settings) now fresh s).2 := by
  cases h : op.perform (hubSettings settings) now fresh s with
  | mk result left =>
    cases result with
    | ok answer => rw [meet_perform_of_ok h]
    | error fault => rw [meet_perform_of_error h]

theorem handle_left :
    (handle settings now fresh r s).2 = (r.demand.meet settings now fresh s).2 :=
  rfl

/-- A request that asks for no change leaves the store as it was. -/
theorem handle_of_unasked (unasked : ∀ op status, ¬r.Asks op status) :
    (handle settings now fresh r s).2 = s := by
  rw [handle_left]
  cases hdemand : r.demand with
  | health => rfl
  | reply status content => rfl
  | perform op status =>
    have hlooks : op.looks = true := by
      cases hop : op.looks with
      | true => rfl
      | false => exact absurd (demand_iff_asks.1 ⟨hdemand, hop⟩) (unasked op status)
    have hkept : Step.after (hubSettings settings) ⟨now, fresh, op⟩ s = s :=
      Step.after_of_looks hlooks
    exact meet_perform_left.trans hkept

/-- A request that asks for a change leaves what the hub leaves when it is asked for it. -/
theorem handle_of_asks (asks : r.Asks op status) :
    (handle settings now fresh r s).2 = (op.perform (hubSettings settings) now fresh s).2 := by
  rw [handle_left, (demand_iff_asks.2 asks).1]
  exact meet_perform_left

/-- Only a request that is read from a body and a path can ask for a change, so it is none for the
head of a response. -/
theorem Request.Asks.method_ne_head (asks : r.Asks op status) : r.method ≠ "HEAD" := by
  cases asks with
  | define target _ _ | record target _ | createEvent target _ _ | updateEvent target _ _ _
  | setRewards target _ _ _ | request target _ _ | approve target _ _ | reject target _ _ _ =>
    rw [target.method]
    decide

/-- The change asked for is made, and told of with its status, or it fails and nothing is changed. -/
theorem handle_cases (asks : r.Asks op status) :
    (∃ answer left, op.perform (hubSettings settings) now fresh s = (.ok answer, left) ∧
      handle settings now fresh r s =
        (⟨status, .json answer.toJson, allowedOrigin settings⟩, left)) ∨
    ∃ fault, op.perform (hubSettings settings) now fresh s = (.error fault, s) ∧
      handle settings now fresh r s =
        (⟨faultStatus fault, .json (errorJson fault.message fault.problems),
          allowedOrigin settings⟩, s) := by
  have hdemand := (demand_iff_asks.2 asks).1
  have hhead := asks.method_ne_head
  cases h : op.apply (hubSettings settings) now fresh s with
  | ok p =>
    have hperform : op.perform (hubSettings settings) now fresh s = (.ok p.1, p.2) := by
      rw [Operation.perform, h]
    refine .inl ⟨p.1, p.2, hperform, ?_⟩
    rw [handle, hdemand, meet_perform_of_ok hperform]
    simp only [if_neg hhead]
  | error fault =>
    have hperform : op.perform (hubSettings settings) now fresh s = (.error fault, s) := by
      rw [Operation.perform, h]
    refine .inr ⟨fault, hperform, ?_⟩
    rw [handle, hdemand, meet_perform_of_error hperform]
    simp only [if_neg hhead]

/-- The status that tells of a change is one of success. -/
theorem Request.Asks.status_eq (asks : r.Asks op status) : status = 200 ∨ status = 201 := by
  cases asks with
  | define _ _ _ | record _ _ | createEvent _ _ _ | request _ _ _ => exact .inr rfl
  | updateEvent _ _ _ _ | setRewards _ _ _ _ | approve _ _ _ | reject _ _ _ _ => exact .inl rfl

/-- A request without a user can ask for nothing but that a log is recorded. -/
theorem Request.Asks.of_no_user (asks : r.Asks op status) (anonymous : ∀ user, ¬r.SentBy user) :
    ∃ input, op = .record input := by
  cases asks with
  | @record input _ _ => exact ⟨input, rfl⟩
  | define _ _ sent | createEvent _ _ sent | updateEvent _ _ _ sent | setRewards _ _ _ sent
  | request _ _ sent | approve _ _ sent | reject _ _ _ sent => exact absurd sent (anonymous _)

end Answering

/-! ## Requests in a row -/

/-- A request as it reaches the service, with the time it does and the ids that may be drawn for it. -/
structure Arrival where
  now : Instant
  fresh : FreshIds
  request : Request

/-- The step of the hub that a request comes to, if it comes to one. -/
def Arrival.step? (arrival : Arrival) : Option Step :=
  match arrival.request.demand with
  | .perform op _ => some ⟨arrival.now, arrival.fresh, op⟩
  | _ => none

/-- The store after requests that are answered in a row. -/
def serve (settings : Settings) (s : Store) (arrivals : List Arrival) : Store :=
  arrivals.foldl (fun s a => (handle settings a.now a.fresh a.request s).2) s

theorem handle_eq_step? (settings : Settings) (arrival : Arrival) (s : Store) :
    (handle settings arrival.now arrival.fresh arrival.request s).2 =
      s.run (hubSettings settings) arrival.step?.toList := by
  rw [handle_left, Arrival.step?]
  cases arrival.request.demand with
  | health => rfl
  | reply status content => rfl
  | perform op status => exact meet_perform_left

/-- The requests that a service answers make a run of the hub, so that the service never leaves a store
that the hub itself could not. -/
theorem serve_eq_run (settings : Settings) (s : Store) (arrivals : List Arrival) :
    serve settings s arrivals = s.run (hubSettings settings) (arrivals.filterMap Arrival.step?) := by
  induction arrivals generalizing s with
  | nil => rfl
  | cons arrival rest ih =>
    have hstep := handle_eq_step? settings arrival s
    calc
      serve settings s (arrival :: rest) =
          serve settings (handle settings arrival.now arrival.fresh arrival.request s).2 rest := rfl
      _ = (s.run (hubSettings settings) arrival.step?.toList).run (hubSettings settings)
          (rest.filterMap Arrival.step?) := by rw [hstep, ih]
      _ = s.run (hubSettings settings)
          (arrival.step?.toList ++ rest.filterMap Arrival.step?) := (Store.run_append _ _).symm
      _ = s.run (hubSettings settings) ((arrival :: rest).filterMap Arrival.step?) := by
        rw [List.filterMap_cons]
        cases arrival.step? with
        | none => rfl
        | some step => rfl

/-- Whatever request the service is sent, it leaves the store as it is, or as the one change of the hub
leaves it that the request asks for, and then tells of it.  A request that gives no user changes
nothing but logs. -/
theorem service_refines_hub (settings : Settings) (now : Instant) (fresh : FreshIds) (r : Request)
    (s : Store) :
    let response := (handle settings now fresh r s).1
    let left := (handle settings now fresh r s).2
    (left = s ∨ ∃ op answer, r.Asks op response.status ∧
      op.perform (hubSettings settings) now fresh s = (.ok answer, left) ∧
      response.content = .json answer.toJson) ∧
    (∀ op status, r.Asks op status →
      left = (op.perform (hubSettings settings) now fresh s).2) ∧
    (¬(200 ≤ response.status ∧ response.status < 300) → left = s) ∧
    ((∀ user, ¬r.SentBy user) →
      left.definitions = s.definitions ∧ left.events = s.events ∧ left.requests = s.requests) := by
  intro response left
  by_cases hasked : ∃ op status, r.Asks op status
  · rcases hasked with ⟨op, status, hasks⟩
    have hleft : ∀ op status, r.Asks op status →
        left = (op.perform (hubSettings settings) now fresh s).2 := fun _ _ => handle_of_asks
    -- only where the change is made there is something to show: a fault leaves the store alone
    rcases handle_cases hasks with ⟨answer, left', hperform, hhandle⟩ | ⟨fault, hperform, hhandle⟩
    · have hresponse : response = ⟨status, .json answer.toJson, allowedOrigin settings⟩ :=
        congrArg Prod.fst hhandle
      have hsame : left = left' := congrArg Prod.snd hhandle
      refine ⟨.inr ⟨op, answer, ?_, ?_, ?_⟩, hleft, ?_, ?_⟩
      · rw [hresponse]
        exact hasks
      · rw [hsame]
        exact hperform
      · rw [hresponse]
      · intro hfailed
        rw [hresponse] at hfailed
        have hstatus := hasks.status_eq
        simp only at hfailed
        omega
      · intro hanonymous
        rcases hasks.of_no_user hanonymous with ⟨input, rfl⟩
        rw [hsame]
        cases Operation.effect_of_perform hperform with
        | look looks _ => cases looks
        | record _ _ => exact ⟨rfl, rfl, rfl⟩
    · have hsame : left = s := congrArg Prod.snd hhandle
      exact ⟨.inl hsame, hleft, fun _ => hsame, fun _ => hsame ▸ ⟨rfl, rfl, rfl⟩⟩
  · have hunasked : ∀ op status, ¬r.Asks op status := fun op status h => hasked ⟨op, status, h⟩
    have hsame : left = s := handle_of_unasked hunasked
    exact ⟨.inl hsame, fun op status h => absurd h (hunasked op status), fun _ => hsame,
      fun _ => hsame ▸ ⟨rfl, rfl, rfl⟩⟩

namespace Sample

open EventRewards.Sample

def settings : Settings :=
  { Settings.default with boundLogsToEventWindow := true }

/-- The approval of Ann's request, sent with blanks around the user's name. -/
def approval : Request :=
  { method := "POST"
    target := "/reward-requests/r1/approve"
    headers := [("X-User-Id", " ops ")]
    body := none }

theorem approval_asks : approval.Asks (.approve "ops" "r1") 200 := by
  have hsent : approval.SentBy "ops" := ⟨" ops ", by decide, by decide, by decide⟩
  have hsegment : '/' ∉ "r1".toList := by decide
  have htarget : approval.Targets "POST" (.approval "r1".toList) := ⟨rfl, hsegment, by decide⟩
  exact .approve htarget (by decide) hsent

end Sample

/-- The approval that is sent leaves what the hub leaves when Ann's request is approved. -/
theorem service_refines_hub_for_approval :
    (handle Sample.settings (EventRewards.Sample.second 50) (fun _ => "n1") Sample.approval
        (Store.empty.run EventRewards.Sample.settings (EventRewards.Sample.steps.take 6))).2 =
      Store.empty.run EventRewards.Sample.settings (EventRewards.Sample.steps.take 6 ++
        [EventRewards.Sample.step 50 "n1" (.approve "ops" "r1")]) := by
  rw [Store.run_snoc]
  exact (service_refines_hub Sample.settings (EventRewards.Sample.second 50) (fun _ => "n1")
    Sample.approval
    (Store.empty.run EventRewards.Sample.settings (EventRewards.Sample.steps.take 6))).2.1
      (.approve "ops" "r1") 200 Sample.approval_asks

end Http
end EventRewards
