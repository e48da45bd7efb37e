import EventRewards.Proofs.Hub.Runs

/-!
# Operations in place

The documents of the hub are shared, and an operation works on them where they are: it looks documents
up, checks what it is asked for, and writes field after field, and a fault undoes nothing.
`Operation.inPlace` is each operation in this form.  All the same an operation that fails leaves
everything as it was, since no check comes after a write, and one that succeeds changes one collection
and at most one document in it.
-/

namespace EventRewards

/-- A use of the store in place.  A fault ends it, and what was written before that stays written. -/
abbrev InPlace (α : Type) := ExceptT Fault (StateM Store) α

namespace InPlace

variable {α β : Type}

/-- What is answered, or the fault, and the store that is left in either case. -/
def runOn (use : InPlace α) (s : Store) : Except Fault α × Store :=
  use.run.run s

/-- Looks at the store, and ends where what is looked for is refused. -/
def look (question : Store → Except Fault α) : InPlace α := do
  match question (← get) with
  | .ok a => return a
  | .error fault => throw fault

/-- Writes to a document one field after the other, the document being put back each time. -/
def writeFields (put : Store → α → Store) (document : α) : List (α → α) → InPlace α
  | [] => return document
  | write :: rest => do
    modify fun s => put s (write document)
    writeFields put (write document) rest

/-! ## The operations -/

section Operations

open Store

variable (now : Instant) (fresh : FreshIds)

def define (user : String) (input : NewDefinition) : InPlace Definition := do
  let fieldName := Text.trim input.fieldName
  if fieldName.isEmpty then throw (.blank .fieldName)
  else
    let s ← get
    if s.definitions.any (·.fieldName == fieldName) then throw (.fieldNameTaken fieldName)
    else
      let d := newDefinition now fresh user input
      modify fun s => { s with definitions := s.definitions ++ [d] }
      return d

def record (input : NewLog) : InPlace Log := do
  if Text.isBlankText input.userId || Text.isBlankText input.fieldName then throw (.blank .logKeys)
  else
    let l := newLog now fresh input
    modify fun s => { s with logs := s.logs ++ [l] }
    return l

def createEvent (user : String) (input : NewEvent) : InPlace Event := do
  look fun _ => checkName input.name
  look fun _ => checkSchedule input.startedAt input.endedAt
  look fun s => s.checkCondition input.condition
  let e := newEvent now fresh user input
  modify fun s => { s with events := s.events ++ [e] }
  return e

/-- What a change writes to an event.  The schedule was put together when it was `checked`, and the
version from `before` all this goes into the histories. -/
def changeWrites (user : String) (change : EventChange) (checked before : EventVersion) :
    List (Event → Event) :=
  let rewards := change.rewards.map fun drafts => (Draft.completeAll fresh 0 drafts).1
  [fun e => { e with name := change.name.getD e.name },
    fun e => { e with description := change.description.or e.description },
    fun e => { e with startedAt := change.startedAt.getD checked.startedAt },
    fun e => { e with endedAt := change.endedAt.getD checked.endedAt },
    fun e => { e with condition := change.condition.getD e.condition },
    fun e => { e with distribution := change.distribution.getD e.distribution },
    fun e => { e with rewards := rewards.getD e.rewards },
    fun e => { e with updatedAt := now },
    fun e => { e with updatedBy := some user },
    fun e => { e with histories := e.histories ++ [before] }]

def rewardWrites (user : String) (rewards : List (Draft Reward)) : List (Event → Event) :=
  [fun e => { e with rewards := (Draft.completeAll fresh 0 rewards).1 },
    fun e => { e with updatedAt := now },
    fun e => { e with updatedBy := some user }]

def decisionWrites (operator : String) (wanted : RequestStatus) (reason : Option String)
    (rewards : List Reward) : List (RewardRequest → RewardRequest) :=
  [fun r => { r with status := wanted },
    fun r => { r with reason := reason },
    fun r => { r with determinedAt := some now },
    fun r => { r with determinedBy := some operator },
    fun r => { r with receivedRewards := rewards },
    fun r => { r with updatedAt := now }]

def updateEvent (user id : String) (change : EventChange) : InPlace Event := do
  let e ← look (·.findEvent id)
  look fun _ => checkUnstarted now e
  look fun s => s.checkChange e change
  -- the event is looked up once more to be written to
  let held ← look (·.findEvent id)
  writeFields replaceEvent held
    (changeWrites now fresh user change e.toEventVersion held.toEventVersion)

def setRewards (user id : String) (rewards : List (Draft Reward)) : InPlace Event := do
  let held ← look (·.findEvent id)
  writeFields replaceEvent held (rewardWrites now fresh user rewards)

def request (bounded : Bool) (user eventId : String) : InPlace RewardRequest := do
  let e ← look (·.findEvent eventId)
  look fun _ => checkRunning now e
  -- the request is made before it is known whether its user may hold it
  let r := (← get).newRequest bounded now fresh user e
  let s ← get
  if s.hasOpenRequest user e.id then throw (.alreadyRequested e.id user)
  else
    modify fun s => { s with requests := s.requests ++ [r] }
    return r

def decide (operator : String) (wanted : RequestStatus) (reason : Option String)
    (rewards : List Reward) (id : String) : InPlace RewardRequest := do
  let held ← look (·.findRequest id)
  if held.status = .pending then
    writeFields replaceRequest held (decisionWrites now operator wanted reason rewards)
  else throw (.notPending held.status wanted)

def approve (operator id : String) : InPlace RewardRequest := do
  let r ← look (·.findRequest id)
  let e ← look (·.findEvent r.eventId)
  decide now operator .approved none e.rewards id

end Operations

end InPlace

/-- An operation as it works on the store in place. -/
def Operation.inPlace (settings : HubSettings) (now : Instant) (fresh : FreshIds) :
    Operation → InPlace Answer
  | .define user input => .definition <$> InPlace.define now fresh user input
  | .findDefinition id => .definition <$> InPlace.look (·.findDefinition id)
  | .findDefinitions ids => .definitions <$> InPlace.look fun s => .ok (s.definitionsById ids)
  | .listDefinitions text => .definitions <$> InPlace.look fun s => .ok (s.listDefinitions text)
  | .checkTree tree => .report <$> InPlace.look fun s => .ok (s.checkTree tree)
  | .assertTree tree => (fun _ => .done) <$> InPlace.look (·.assertSound tree)
  | .checkDocument document =>
    .report <$> InPlace.look fun s => .ok (Tree.checkJson document (s.listDefinitions none))
  | .record input => .log <$> InPlace.record now fresh input
  | .queryLogs query => .logs <$> InPlace.look fun s => .ok (s.queryLogs query)
  | .createEvent user input => .event <$> InPlace.createEvent now fresh user input
  | .updateEvent user id change => .event <$> InPlace.updateEvent now fresh user id change
  | .setRewards user id rewards => .event <$> InPlace.setRewards now fresh user id rewards
  | .findEvent id => .event <$> InPlace.look (·.findEvent id)
  | .phase id => (fun e => .phase (e.phase now)) <$> InPlace.look (·.findEvent id)
  | .listEvents query => .events <$> InPlace.look (·.listEvents query)
  | .countByStatus => .counts <$> InPlace.look fun s => .ok s.countByStatus
  | .request user eventId =>
    .request <$> InPlace.request now fresh settings.boundLogs user eventId
  | .approve user id => .request <$> InPlace.approve now user id
  | .reject user id reason => .request <$> InPlace.decide now user .rejected reason [] id
  | .findRequest id => .request <$> InPlace.look (·.findRequest id)
  | .listRequests query => .requests <$> InPlace.look fun s => .ok (s.listRequests query)

/-! ## In place and all at once -/

namespace Store

theorem replaceEvent_replaceEvent (s : Store) (a b : Event) (same : b.id = a.id) :
    (s.replaceEvent a).replaceEvent b = s.replaceEvent b := by
  have hevents : Keyed.replace (·.id) (Keyed.replace (·.id) s.events a) b =
      Keyed.replace (·.id) s.events b := Keyed.replace_replace s.events same
  simp only [replaceEvent, mk.injEq, true_and, and_true]
  exact hevents

theorem replaceRequest_replaceRequest (s : Store) (a b : RewardRequest) (same : b.id = a.id) :
    (s.replaceRequest a).replaceRequest b = s.replaceRequest b := by
  have hrequests : Keyed.replace (·.id) (Keyed.replace (·.id) s.requests a) b =
      Keyed.replace (·.id) s.requests b := Keyed.replace_replace s.requests same
  simp only [replaceRequest, mk.injEq, true_and]
  exact hrequests

end Store

namespace InPlace

variable {α β : Type} {s : Store}

/-- The outcome of a change all at once, which leaves the store as it was where it fails. -/
def settle (s : Store) : Except Fault (α × Store) → Except Fault α × Store
  | .ok (a, left) => (.ok a, left)
  | .error fault => (.error fault, s)

@[simp]
theorem runOn_get_bind (next : Store → InPlace α) : (get >>= next).runOn s = (next s).runOn s :=
  rfl

/-- What comes next works on the store that was left, and a fault keeps it from coming. -/
theorem runOn_bind (use : InPlace α) (next : α → InPlace β) :
    (use >>= next).runOn s =
      match use.runOn s with
      | (.ok a, left) => (next a).runOn left
      | (.error fault, left) => (.error fault, left) := by
  have hrun : (use >>= next).runOn s =
      StateT.run (ExceptT.bindCont next (use.runOn s).1) (use.runOn s).2 := rfl
  rw [hrun]
  rcases use.runOn s with ⟨result, left⟩
  cases result with
  | ok a => rfl
  | error fault => rfl

theorem runOn_look (question : Store → Except Fault α) :
    (look question).runOn s = (question s, s) := by
  have hrun : (look question).runOn s =
      (match question s with
        | .ok a => pure a
        | .error fault => throw fault : InPlace α).runOn s := rfl
  rw [hrun]
  cases question s with
  | ok a => rfl
  | error fault => rfl

/-- A look that refuses nothing leaves it to what comes next how the operation ends. -/
theorem runOn_look_bind {question : Store → Except Fault α} {next : α → InPlace β}
    {rest : α → Except Fault (β × Store)}
    (goesOn : ∀ a, question s = .ok a → (next a).runOn s = settle s (rest a)) :
    (look question >>= next).runOn s = settle s (question s >>= rest) := by
  rw [runOn_bind, runOn_look]
  cases h : question s with
  | ok a => exact goesOn a h
  | error fault => rfl

theorem runOn_refuse {p : Prop} [Decidable p] {fault : Fault} {use : InPlace α}
    {change : Except Fault (α × Store)} (goesOn : use.runOn s = settle s change) :
    (if p then throw fault else use).runOn s = settle s (if p then .error fault else change) := by
  by_cases h : p
  · simp only [if_pos h]
    rfl
  · simpa only [if_neg h] using goesOn

theorem foldl_keyed {key : α → String} {writes : List (α → α)}
    (keyed : ∀ write ∈ writes, ∀ a, key (write a) = key a) (a : α) :
    key (writes.foldl (fun a write => write a) a) = key a := by
  induction writes generalizing a with
  | nil => rfl
  | cons write rest ih =>
    have hrest : key (rest.foldl (fun a write => write a) (write a)) = key (write a) := by
      apply ih
      intro write' hwrite'
      exact keyed write' (List.mem_cons_of_mem _ hwrite')
    exact hrest.trans (keyed write List.mem_cons_self a)

/-- Writes that leave the key of a document alone come to one: what is put back last is what stays. -/
theorem runOn_writeFields {put : Store → α → Store} {key : α → String}
    (overwrites : ∀ s a b, key b = key a → put (put s a) b = put s b) {writes : List (α → α)}
    (keyed : ∀ write ∈ writes, ∀ a, key (write a) = key a) (nonempty : writes ≠ []) (a : α) :
    (writeFields put a writes).runOn s =
      (.ok (writes.foldl (fun a write => write a) a),
        put s (writes.foldl (fun a write => write a) a)) := by
  induction writes generalizing a s with
  | nil => exact absurd rfl nonempty
  | cons write rest ih =>
    by_cases hrest : rest = []
    · subst hrest
      rfl
    · have hkeyed : ∀ write ∈ rest, ∀ a, key (write a) = key a := by
        intro write' hwrite'
        exact keyed write' (List.mem_cons_of_mem _ hwrite')
      have hlast : put (put s (write a)) (rest.foldl (fun a write => write a) (write a)) =
          put s (rest.foldl (fun a write => write a) (write a)) :=
        overwrites s _ _ (foldl_keyed hkeyed (write a))
      calc
        (writeFields put a (write :: rest)).runOn s =
            (writeFields put (write a) rest).runOn (put s (write a)) := rfl
        _ = _ := ih hkeyed hrest (write a)
        _ = _ := by rw [hlast, List.foldl_cons]

section Operations

variable {now : Instant} {fresh : FreshIds}

theorem runOn_define (user : String) (input : NewDefinition) :
    (define now fresh user input).runOn s = settle s (s.define now fresh user input) := by
  apply runOn_refuse
  rw [runOn_get_bind]
  apply runOn_refuse
  rfl

theorem runOn_record (input : NewLog) :
    (record now fresh input).runOn s = settle s (s.record now fresh input) := by
  apply runOn_refuse
  rfl

theorem runOn_createEvent (user : String) (input : NewEvent) :
    (createEvent now fresh user input).runOn s = settle s (s.createEvent now fresh user input) := by
  apply runOn_look_bind
  intro _ _
  apply runOn_look_bind
  intro _ _
  apply runOn_look_bind
  intro _ _
  rfl

theorem runOn_request (bounded : Bool) (user eventId : String) :
    (request now fresh bounded user eventId).runOn s =
      settle s (s.request bounded now fresh user eventId) := by
  apply runOn_look_bind
  intro e _
  apply runOn_look_bind
  intro _ _
  rw [runOn_get_bind, runOn_get_bind]
  apply runOn_refuse
  rfl

theorem runOn_updateEvent (user id : String) (change : EventChange) :
    (updateEvent now fresh user id change).runOn s =
      settle s (s.updateEvent now fresh user id change) := by
  apply runOn_look_bind
  intro e hfound
  apply runOn_look_bind
  intro _ _
  apply runOn_look_bind
  intro _ _
  -- nothing was written so far: the second look finds what the first one did
  have hheld : (look (·.findEvent id)).runOn s = (.ok e, s) := by
    rw [runOn_look, hfound]
  rw [runOn_bind, hheld]
  exact runOn_writeFields Store.replaceEvent_replaceEvent (by simp)
    (List.cons_ne_nil _ _) e

theorem runOn_setRewards (user id : String) (rewards : List (Draft Reward)) :
    (setRewards now fresh user id rewards).runOn s =
      settle s (s.setRewards now fresh user id rewards) := by
  apply runOn_look_bind
  intro e _
  exact runOn_writeFields Store.replaceEvent_replaceEvent (by simp)
    (List.cons_ne_nil _ _) e

theorem runOn_decide (operator : String) (wanted : RequestStatus) (reason : Option String)
    (rewards : List Reward) (id : String) :
    (decide now operator wanted reason rewards id).runOn s =
      settle s (s.decide now operator wanted reason rewards id) := by
  apply runOn_look_bind
  intro r _
  by_cases hpending : r.status = .pending
  · rw [if_pos hpending, if_pos hpending]
    exact runOn_writeFields Store.replaceRequest_replaceRequest (by simp)
      (List.cons_ne_nil _ _) r
  · rw [if_neg hpending, if_neg hpending]
    rfl

theorem runOn_approve (operator id : String) :
    (approve now operator id).runOn s = settle s (s.approve now operator id) := by
  apply runOn_look_bind
  intro r _
  apply runOn_look_bind
  intro e _
  exact runOn_decide operator .approved none e.rewards id

end Operations

/-! ## Answers -/

theorem runOn_map (f : α → β) (use : InPlace α) :
    (f <$> use).runOn s = ((use.runOn s).1.map f, (use.runOn s).2) := by
  have hmap : (f <$> use).runOn s = (use >>= fun a => pure (f a)).runOn s := rfl
  rw [hmap, runOn_bind]
  rcases use.runOn s with ⟨result, left⟩
  cases result with
  | ok a => rfl
  | error fault => rfl

theorem runOn_changing {answer : α → Answer} {use : InPlace α} {change : Except Fault (α × Store)}
    (h : use.runOn s = settle s change) :
    (answer <$> use).runOn s = settle s (Operation.changing answer change) := by
  rw [runOn_map, h]
  cases change with
  | ok p => rfl
  | error fault => rfl

theorem runOn_reading {answer : α → Answer} (question : Store → Except Fault α) :
    (answer <$> look question).runOn s = settle s (Operation.reading answer s (question s)) := by
  rw [runOn_map, runOn_look]
  cases question s with
  | ok a => rfl
  | error fault => rfl

end InPlace

namespace Operation

variable {settings : HubSettings} {now : Instant} {fresh : FreshIds} {s : Store}

theorem perform_eq_settle (op : Operation) :
    op.perform settings now fresh s = InPlace.settle s (op.apply settings now fresh s) := by
  rw [perform]
  cases op.apply settings now fresh s with
  | ok p => rfl
  | error fault => rfl

/-- In place and all at once, an operation ends in the same way and leaves the same store. -/
theorem runOn_inPlace (op : Operation) :
    (op.inPlace settings now fresh).runOn s = op.perform settings now fresh s := by
  rw [perform_eq_settle]
  cases op with
  | define user input => exact InPlace.runOn_changing (InPlace.runOn_define user input)
  | record input => exact InPlace.runOn_changing (InPlace.runOn_record input)
  | createEvent user input => exact InPlace.runOn_changing (InPlace.runOn_createEvent user input)
  | updateEvent user id change =>
    exact InPlace.runOn_changing (InPlace.runOn_updateEvent user id change)
  | setRewards user id rewards =>
    exact InPlace.runOn_changing (InPlace.runOn_setRewards user id rewards)
  | request user eventId =>
    exact InPlace.runOn_changing (InPlace.runOn_request settings.boundLogs user eventId)
  | approve user id => exact InPlace.runOn_changing (InPlace.runOn_approve user id)
  | reject user id reason =>
    exact InPlace.runOn_changing (InPlace.runOn_decide user .rejected reason [] id)
  | _ => exact InPlace.runOn_reading _

end Operation

/-! ## What is changed -/

namespace Store

/-- Whether a stored event is changed to another with its id, and all else stays as it is. -/
structure EventChanged (s : Store) (id : String) (e : Event) (left : Store) : Prop where
  stored : ∃ old, s.event? id = some old
  found : left.event? id = some e
  others : ∃ events, Keyed.SameBut (·.id) id s.events events ∧ left = { s with events := events }

/-- Whether a stored request is changed to another with its id, and all else stays as it is. -/
structure RequestChanged (s : Store) (id : String) (r : RewardRequest) (left : Store) : Prop where
  stored : ∃ old, s.request? id = some old
  found : left.request? id = some r
  others : ∃ requests,
    Keyed.SameBut (·.id) id s.requests requests ∧ left = { s with requests := requests }

/-- The one document that an operation adds or changes is the one that it answers. -/
inductive Changed (s : Store) : Operation → Answer → Store → Prop where
  | nothing {op : Operation} {answer : Answer} (looks : op.looks = true) : s.Changed op answer s
  | define {user : String} {input : NewDefinition} {d : Definition}
      (new : s.definition? d.id = none) :
      s.Changed (.define user input) (.definition d)
        { s with definitions := s.definitions ++ [d] }
  | record {input : NewLog} {l : Log} (new : ∀ other ∈ s.logs, other.id ≠ l.id) :
      s.Changed (.record input) (.log l) { s with logs := s.logs ++ [l] }
  | createEvent {user : String} {input : NewEvent} {e : Event} (new : s.event? e.id = none) :
      s.Changed (.createEvent user input) (.event e) { s with events := s.events ++ [e] }
  | updateEvent {user id : String} {change : EventChange} {e : Event} {left : Store}
      (changed : s.EventChanged id e left) : s.Changed (.updateEvent user id change) (.event e) left
  | setRewards {user id : String} {rewards : List (Draft Reward)} {e : Event} {left : Store}
      (changed : s.EventChanged id e left) : s.Changed (.setRewards user id rewards) (.event e) left
  | request {user eventId : String} {r : RewardRequest} (new : s.request? r.id = none) :
      s.Changed (.request user eventId) (.request r) { s with requests := s.requests ++ [r] }
  | approve {user id : String} {r : RewardRequest} {left : Store}
      (changed : s.RequestChanged id r left) : s.Changed (.approve user id) (.request r) left
  | reject {user id : String} {reason : Option String} {r : RewardRequest} {left : Store}
      (changed : s.RequestChanged id r left) : s.Changed (.reject user id reason) (.request r) left

variable {s : Store}

theorem eventChanged_replaceEvent {id : String} {old e : Event} (stored : s.event? id = some old)
    (kept : e.id = old.id) : s.EventChanged id e (s.replaceEvent e) := by
  have hid : old.id = id := (of_event? stored).2
  refine ⟨⟨old, stored⟩, ?_, Keyed.replace (·.id) s.events e, ?_, rfl⟩
  · rw [event?_replaceEvent, if_pos (kept.trans hid), stored]
    rfl
  · have hothers : Keyed.SameBut (·.id) e.id s.events (Keyed.replace (·.id) s.events e) :=
      Keyed.sameBut_replace s.events e
    rwa [kept.trans hid] at hothers

theorem requestChanged_replaceRequest {id : String} {old r : RewardRequest}
    (stored : s.request? id = some old) (kept : r.id = old.id) :
    s.RequestChanged id r (s.replaceRequest r) := by
  have hid : old.id = id := (of_request? stored).2
  refine ⟨⟨old, stored⟩, ?_, Keyed.replace (·.id) s.requests r, ?_, rfl⟩
  · rw [request?_replaceRequest, if_pos (kept.trans hid), stored]
    rfl
  · have hothers : Keyed.SameBut (·.id) r.id s.requests (Keyed.replace (·.id) s.requests r) :=
      Keyed.sameBut_replace s.requests r
    rwa [kept.trans hid] at hothers

theorem definition?_eq_none {id : String} (unused : id ∉ s.ids) : s.definition? id = none := by
  refine Keyed.find?_eq_none.2 ?_
  intro hmem
  exact unused (by simp [ids, hmem])

theorem event?_eq_none {id : String} (unused : id ∉ s.ids) : s.event? id = none := by
  refine Keyed.find?_eq_none.2 ?_
  intro hmem
  exact unused (by simp [ids, hmem])

theorem request?_eq_none {id : String} (unused : id ∉ s.ids) : s.request? id = none := by
  refine Keyed.find?_eq_none.2 ?_
  intro hmem
  exact unused (by simp [ids, hmem])

variable {settings : HubSettings} {now : Instant} {fresh : FreshIds}

/-- What an operation draws becomes the id of what it adds, which is why it must not be in use. -/
theorem changed_of_effect {op : Operation} {answer : Answer} {left : Store}
    (effect : Effect settings now fresh s op answer left)
    (unused : ∀ k < op.draws, fresh (k + 1) ∉ s.ids) : s.Changed op answer left := by
  cases effect with
  | look looks _ => exact .nothing looks
  | define _ _ => exact .define (definition?_eq_none (unused 0 Nat.one_pos))
  | record _ _ =>
    refine .record ?_
    intro other hother hid
    have hmem : other.id ∈ s.logs.map (·.id) := List.mem_map_of_mem hother
    have hused : fresh 1 ∈ s.ids := by
      rw [hid] at hmem
      simp only [ids, List.mem_append]
      exact .inl (.inl (.inr hmem))
    exact unused 0 Nat.one_pos hused
  | @createEvent user input _ _ _ =>
    refine .createEvent (event?_eq_none ?_)
    rw [newEvent_id]
    exact unused _ (Nat.lt_succ_self (Draft.lacking input.rewards))
  | updateEvent found _ _ _ => exact .updateEvent (eventChanged_replaceEvent found rfl)
  | setRewards found => exact .setRewards (eventChanged_replaceEvent found rfl)
  | request _ _ _ _ _ => exact .request (request?_eq_none (unused 0 Nat.one_pos))
  | approve found _ _ => exact .approve (requestChanged_replaceRequest found rfl)
  | reject found _ => exact .reject (requestChanged_replaceRequest found rfl)

end Store

/-- In whatever store an operation is performed, a fault leaves every document as it was, and a success
changes no document but the one it is about.  Both are so although nothing that was written is taken
back when a fault comes. -/
theorem operation_changes_one_document (settings : HubSettings) (step : Step) (s : Store)
    (unused : ∀ id ∈ step.drawn settings s, id ∉ s.ids) :
    (step.op.inPlace settings step.now step.fresh).runOn s =
        (step.outcome settings s, step.after settings s) ∧
      (∀ fault, step.outcome settings s = .error fault → step.after settings s = s) ∧
      (step.op.looks = true → step.after settings s = s) ∧
      ∀ answer, step.outcome settings s = .ok answer →
        s.Changed step.op answer (step.after settings s) := by
  refine ⟨Operation.runOn_inPlace step.op, ?_, Step.after_of_looks, ?_⟩
  · intro fault hfault
    rcases Step.cases settings step s with ⟨_, _, hafter⟩ | ⟨answer, hanswer, _⟩
    · exact hafter
    · rw [hfault] at hanswer
      cases hanswer
  · intro answer hanswer
    rcases Step.cases settings step s with ⟨fault, hfault, _⟩ | ⟨answer', hanswer', heffect⟩
    · rw [hanswer] at hfault
      cases hfault
    · have hsame : answer = answer' := Except.ok.inj (hanswer.symm.trans hanswer')
      subst hsame
      have hdrawn : step.drawn settings s =
          (List.range step.op.draws).map fun k => step.fresh (k + 1) := by
        rw [Step.drawn, hanswer]
      refine Store.changed_of_effect heffect ?_
      intro k hk
      apply unused
      rw [hdrawn]
      exact List.mem_map.2 ⟨k, List.mem_range.2 hk, rfl⟩

/-- Ann's request is added to the store, and is all that changes. -/
theorem operation_changes_one_document_for_ann :
    ∃ r, (Store.empty.run Sample.settings (Sample.steps.take 5)).request? r.id = none ∧
      Sample.firstTry.after Sample.settings
          (Store.empty.run Sample.settings (Sample.steps.take 5)) =
        { Store.empty.run Sample.settings (Sample.steps.take 5) with
          requests := (Store.empty.run Sample.settings (Sample.steps.take 5)).requests ++ [r] } := by
  have hunused : ∀ id ∈ Sample.firstTry.drawn Sample.settings
        (Store.empty.run Sample.settings (Sample.steps.take 5)),
      id ∉ (Store.empty.run Sample.settings (Sample.steps.take 5)).ids := by
    decide +kernel
  have hanswered : (Sample.firstTry.outcome Sample.settings
      (Store.empty.run Sample.settings (Sample.steps.take 5))).isOk = true := by
    decide +kernel
  have hchanged := (operation_changes_one_document Sample.settings Sample.firstTry
    (Store.empty.run Sample.settings (Sample.steps.take 5)) hunused).2.2.2
  cases houtcome : Sample.firstTry.outcome Sample.settings
      (Store.empty.run Sample.settings (Sample.steps.take 5)) with
  | error fault =>
    rw [houtcome] at hanswered
    cases hanswered
  | ok answer =>
    have hrequest := hchanged answer houtcome
    generalize Sample.firstTry.after Sample.settings
      (Store.empty.run Sample.settings (Sample.steps.take 5)) = left at hrequest ⊢
    cases hrequest with
    | nothing looks => cases looks
    | @request _ _ r new => exact ⟨r, new, rfl⟩

end EventRewards
