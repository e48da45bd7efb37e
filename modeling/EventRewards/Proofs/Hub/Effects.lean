import EventRewards.Hub.Operation
import EventRewards.Proofs.Hub.Lookups
import EventRewards.Proofs.Instants
import EventRewards.Proofs.Results

/-!
# What operations do

`Effect` has one rule for each operation that changes the store, and one for those that only look at
it.  A rule says when the operation succeeds, what it answers and which store it leaves, so that
`Operation.apply` and `Effect` are two forms of one law.  All that is said of runs is proved by cases
on these rules, and never by opening an operation again.
-/

namespace EventRewards

/-- Whether an operation only looks at the store. -/
def Operation.looks : Operation → Bool
  | .findDefinition _ | .findDefinitions _ | .listDefinitions _ | .checkTree _ | .assertTree _
  | .checkDocument _ | .queryLogs _ | .findEvent _ | .phase _ | .listEvents _ | .countByStatus
  | .findRequest _ | .listRequests _ => true
  | .define _ _ | .record _ | .createEvent _ _ | .updateEvent _ _ _ | .setRewards _ _ _
  | .request _ _ | .approve _ _ | .reject _ _ _ => false

/-- Whether a change may be made to an event: it names it, orders its schedule, and gives it no
condition but its own or a sound one. -/
structure EventChange.Fits (s : Store) (e : Event) (change : EventChange) : Prop where
  named : ∀ name, change.name = some name → Text.isBlankText name = false
  ordered : change.startedAt.getD e.startedAt < change.endedAt.getD e.endedAt
  sound : ∀ t, change.condition = some t →
    (t == e.condition) = true ∨ t.root.Sound s.definition?

section Effects

variable (settings : HubSettings) (now : Instant) (fresh : FreshIds) (s : Store)

open Store in
/-- What an operation that succeeds answers, and the store that it leaves. -/
inductive Effect : Operation → Answer → Store → Prop where
  | look {op : Operation} {answer : Answer} (looks : op.looks = true)
      (answered : op.apply settings now fresh s = .ok (answer, s)) : Effect op answer s
  | define {user : String} {input : NewDefinition} (named : Text.trim input.fieldName ≠ "")
      (free : ∀ d ∈ s.definitions, d.fieldName ≠ Text.trim input.fieldName) :
      Effect (.define user input) (.definition (newDefinition now fresh user input))
        { s with definitions := s.definitions ++ [newDefinition now fresh user input] }
  | record {input : NewLog} (user : Text.isBlankText input.userId = false)
      (field : Text.isBlankText input.fieldName = false) :
      Effect (.record input) (.log (newLog now fresh input))
        { s with logs := s.logs ++ [newLog now fresh input] }
  | createEvent {user : String} {input : NewEvent} (named : Text.isBlankText input.name = false)
      (ordered : input.startedAt < input.endedAt)
      (sound : input.condition.root.Sound s.definition?) :
      Effect (.createEvent user input) (.event (newEvent now fresh user input))
        { s with events := s.events ++ [newEvent now fresh user input] }
  | updateEvent {user id : String} {change : EventChange} {e : Event}
      (found : s.event? id = some e) (unstarted : now < e.startedAt) (active : e.status = .active)
      (fits : change.Fits s e) :
      Effect (.updateEvent user id change) (.event (changedEvent now fresh user change e))
        (s.replaceEvent (changedEvent now fresh user change e))
  | setRewards {user id : String} {rewards : List (Draft Reward)} {e : Event}
      (found : s.event? id = some e) :
      Effect (.setRewards user id rewards) (.event (rewardedEvent now fresh user rewards e))
        (s.replaceEvent (rewardedEvent now fresh user rewards e))
  | request {user eventId : String} {e : Event} (found : s.event? eventId = some e)
      (active : e.status = .active) (started : e.startedAt ≤ now) (unended : now ≤ e.endedAt)
      (alone : s.hasOpenRequest user e.id = false) :
      Effect (.request user eventId) (.request (s.newRequest settings.boundLogs now fresh user e))
        { s with requests := s.requests ++ [s.newRequest settings.boundLogs now fresh user e] }
  | approve {user id : String} {r : RewardRequest} {e : Event} (found : s.request? id = some r)
      (pending : r.status = .pending) (event : s.event? r.eventId = some e) :
      Effect (.approve user id) (.request (decidedRequest now user .approved none e.rewards r))
        (s.replaceRequest (decidedRequest now user .approved none e.rewards r))
  | reject {user id : String} {reason : Option String} {r : RewardRequest}
      (found : s.request? id = some r) (pending : r.status = .pending) :
      Effect (.reject user id reason) (.request (decidedRequest now user .rejected reason [] r))
        (s.replaceRequest (decidedRequest now user .rejected reason [] r))

end Effects

/-! ## Checks -/

namespace Store

variable {s : Store} {now : Instant} {e : Event} {done : Unit}

theorem checkName_eq_ok {name : String} :
    checkName name = .ok done ↔ Text.isBlankText name = false := by
  rw [checkName, refuse_eq_ok]
  simp

theorem checkSchedule_eq_ok {startedAt endedAt : Instant} :
    checkSchedule startedAt endedAt = .ok done ↔ startedAt < endedAt := by
  rw [checkSchedule, refuse_eq_ok, not_le]
  simp

theorem checkCondition_eq_ok {t : Tree} :
    s.checkCondition t = .ok done ↔ t.root.Sound s.definition? := by
  rw [checkCondition, refuse_eq_ok, assertSound_eq_ok]
  constructor
  · intro h
    exact h.2
  · intro h
    refine ⟨?_, h⟩
    -- the root is a group, and sound groups have children
    cases h with
    | group _ inhabited _ => simpa using inhabited

theorem checkChange_eq_ok {change : EventChange} :
    s.checkChange e change = .ok done ↔ change.Fits s e := by
  have hname (done : Unit) : checkNewName change.name = .ok done ↔
      ∀ name, change.name = some name → Text.isBlankText name = false := by
    cases change.name with
    | none => simp [checkNewName]
    | some name => simp [checkNewName, checkName_eq_ok]
  have hcondition (done : Unit) : s.checkNewCondition e.condition change.condition = .ok done ↔
      ∀ t, change.condition = some t →
        (t == e.condition) = true ∨ t.root.Sound s.definition? := by
    cases change.condition with
    | none => simp [checkNewCondition]
    | some t =>
      by_cases h : (t == e.condition) = true
      · simp [checkNewCondition, h]
      · simp [checkNewCondition, h, checkCondition_eq_ok]
  simp only [checkChange, bind_eq_ok, hname, checkSchedule_eq_ok, hcondition]
  constructor
  · rintro ⟨_, hnamed, _, hordered, hsound⟩
    exact ⟨hnamed, hordered, hsound⟩
  · intro h
    exact ⟨(), h.named, (), h.ordered, h.sound⟩

theorem phase_eq_upcoming : e.phase now = .upcoming ↔ now < e.startedAt := by
  rw [EventVersion.phase]
  by_cases hstart : now < e.startedAt
  · simp [hstart]
  · by_cases hend : e.endedAt < now
    · simp [hstart, hend]
    · simp [hstart, hend]

theorem phase_eq_ongoing : e.phase now = .ongoing ↔ e.startedAt ≤ now ∧ now ≤ e.endedAt := by
  rw [EventVersion.phase, ← not_lt, ← not_lt]
  by_cases hstart : now < e.startedAt
  · simp [hstart]
  · by_cases hend : e.endedAt < now
    · simp [hstart, hend]
    · simp [hstart, hend]

theorem checkUnstarted_eq_ok :
    checkUnstarted now e = .ok done ↔ now < e.startedAt ∧ e.status = .active := by
  rw [← phase_eq_upcoming, checkUnstarted]
  cases e.phase now with
  | ongoing => simp
  | ended => simp
  | upcoming =>
    cases e.status with
    | active => simp
    | inactive => simp

theorem checkRunning_eq_ok :
    checkRunning now e = .ok done ↔
      e.status = .active ∧ e.startedAt ≤ now ∧ now ≤ e.endedAt := by
  rw [← phase_eq_ongoing, checkRunning]
  cases e.status with
  | inactive => simp
  | active =>
    cases e.phase now with
    | upcoming => simp
    | ended => simp
    | ongoing => simp

/-! ## Operations that change the store -/

variable {fresh : FreshIds} {left : Store}

theorem define_eq_ok {user : String} {input : NewDefinition} {d : Definition} :
    s.define now fresh user input = .ok (d, left) ↔
      (Text.trim input.fieldName ≠ "" ∧
        ∀ d' ∈ s.definitions, d'.fieldName ≠ Text.trim input.fieldName) ∧
      newDefinition now fresh user input = d ∧
      { s with definitions := s.definitions ++ [newDefinition now fresh user input] } = left := by
  have hempty : (Text.trim input.fieldName).isEmpty = true ↔ Text.trim input.fieldName = "" :=
    String.isEmpty_iff
  have hany : s.definitions.any (·.fieldName == Text.trim input.fieldName) = true ↔
      ¬∀ d' ∈ s.definitions, d'.fieldName ≠ Text.trim input.fieldName := by
    simp [List.any_eq_true]
  simp only [define, refuse_eq_ok, hempty, hany, not_not, Except.ok.injEq, Prod.mk.injEq, and_assoc,
    ne_eq]

theorem record_eq_ok {input : NewLog} {l : Log} :
    s.record now fresh input = .ok (l, left) ↔
      (Text.isBlankText input.userId = false ∧ Text.isBlankText input.fieldName = false) ∧
      newLog now fresh input = l ∧
      { s with logs := s.logs ++ [newLog now fresh input] } = left := by
  simp only [record, refuse_eq_ok, Bool.or_eq_true, not_or, Bool.not_eq_true, Except.ok.injEq,
    Prod.mk.injEq]

theorem createEvent_eq_ok {user : String} {input : NewEvent} :
    s.createEvent now fresh user input = .ok (e, left) ↔
      (Text.isBlankText input.name = false ∧ input.startedAt < input.endedAt ∧
        input.condition.root.Sound s.definition?) ∧
      newEvent now fresh user input = e ∧
      { s with events := s.events ++ [newEvent now fresh user input] } = left := by
  simp only [createEvent, bind_eq_ok, pure_eq_ok, checkName_eq_ok, checkSchedule_eq_ok,
    checkCondition_eq_ok, exists_const, Prod.mk.injEq, and_assoc]

theorem updateEvent_eq_ok {user id : String} {change : EventChange} {changed : Event} :
    s.updateEvent now fresh user id change = .ok (changed, left) ↔
      ∃ e, (s.event? id = some e ∧ now < e.startedAt ∧ e.status = .active ∧ change.Fits s e) ∧
        changedEvent now fresh user change e = changed ∧
        s.replaceEvent (changedEvent now fresh user change e) = left := by
  simp only [updateEvent, bind_eq_ok, pure_eq_ok, findEvent_eq_ok, checkUnstarted_eq_ok,
    checkChange_eq_ok, exists_const, Prod.mk.injEq, and_assoc]

theorem setRewards_eq_ok {user id : String} {rewards : List (Draft Reward)} {changed : Event} :
    s.setRewards now fresh user id rewards = .ok (changed, left) ↔
      ∃ e, s.event? id = some e ∧ rewardedEvent now fresh user rewards e = changed ∧
        s.replaceEvent (rewardedEvent now fresh user rewards e) = left := by
  simp only [setRewards, bind_eq_ok, pure_eq_ok, findEvent_eq_ok, Prod.mk.injEq]

theorem request_eq_ok {bounded : Bool} {user eventId : String} {r : RewardRequest} :
    s.request bounded now fresh user eventId = .ok (r, left) ↔
      ∃ e, (s.event? eventId = some e ∧ e.status = .active ∧ e.startedAt ≤ now ∧
          now ≤ e.endedAt ∧ s.hasOpenRequest user e.id = false) ∧
        s.newRequest bounded now fresh user e = r ∧
        { s with requests := s.requests ++ [s.newRequest bounded now fresh user e] } = left := by
  simp only [request, bind_eq_ok, pure_eq_ok, findEvent_eq_ok, checkRunning_eq_ok, refuse_eq_ok,
    Bool.not_eq_true, exists_const, Prod.mk.injEq, and_assoc]

theorem decide_eq_ok {operator id : String} {wanted : RequestStatus} {reason : Option String}
    {rewards : List Reward} {decided : RewardRequest} :
    s.decide now operator wanted reason rewards id = .ok (decided, left) ↔
      ∃ r, (s.request? id = some r ∧ r.status = .pending) ∧
        decidedRequest now operator wanted reason rewards r = decided ∧
        s.replaceRequest (decidedRequest now operator wanted reason rewards r) = left := by
  simp only [decide, bind_eq_ok, findRequest_eq_ok]
  constructor
  · rintro ⟨r, hfound, h⟩
    by_cases hpending : r.status = .pending
    · rw [if_pos hpending, pure_eq_ok, Prod.mk.injEq] at h
      exact ⟨r, ⟨hfound, hpending⟩, h.1, h.2⟩
    · simp [hpending] at h
  · rintro ⟨r, ⟨hfound, hpending⟩, hdecided, hleft⟩
    refine ⟨r, hfound, ?_⟩
    rw [if_pos hpending, pure_eq_ok, Prod.mk.injEq]
    exact ⟨hdecided, hleft⟩

theorem approve_eq_ok {operator id : String} {decided : RewardRequest} :
    s.approve now operator id = .ok (decided, left) ↔
      ∃ r e, (s.request? id = some r ∧ r.status = .pending ∧ s.event? r.eventId = some e) ∧
        decidedRequest now operator .approved none e.rewards r = decided ∧
        s.replaceRequest (decidedRequest now operator .approved none e.rewards r) = left := by
  simp only [approve, bind_eq_ok, findRequest_eq_ok, findEvent_eq_ok, decide_eq_ok]
  -- the request is looked up twice: for its event, and to be decided
  constructor
  · rintro ⟨r, hfound, e, hevent, r', ⟨hfound', hpending⟩, hdecided, hleft⟩
    have heq : r' = r := Option.some.inj (hfound'.symm.trans hfound)
    subst heq
    exact ⟨r', e, ⟨hfound, hpending, hevent⟩, hdecided, hleft⟩
  · rintro ⟨r, e, ⟨hfound, hpending, hevent⟩, hdecided, hleft⟩
    exact ⟨r, hfound, e, hevent, r, ⟨hfound, hpending⟩, hdecided, hleft⟩

end Store

/-! ## Operations and their effects -/

namespace Operation

theorem changing_eq_ok {α : Type} {answer : α → Answer} {result : Except Fault (α × Store)}
    {b : Answer} {left : Store} :
    changing answer result = .ok (b, left) ↔ ∃ a, result = .ok (a, left) ∧ answer a = b := by
  rw [changing]
  cases result with
  | error fault => simp [Except.map]
  | ok p =>
    rcases p with ⟨a, s⟩
    simp only [Except.map, Except.ok.injEq, Prod.mk.injEq]
    constructor
    · rintro ⟨hanswer, rfl⟩
      exact ⟨a, ⟨rfl, rfl⟩, hanswer⟩
    · rintro ⟨a', ⟨rfl, rfl⟩, hanswer⟩
      exact ⟨hanswer, rfl⟩

theorem changing_eq_error {α : Type} {answer : α → Answer} {result : Except Fault (α × Store)}
    {fault : Fault} : changing answer result = .error fault ↔ result = .error fault := by
  rw [changing]
  cases result with
  | error fault' => simp [Except.map]
  | ok p => simp [Except.map]

/-- A look leaves the store as it is. -/
theorem left_eq_of_reading {α : Type} {answer : α → Answer} {s left : Store}
    {result : Except Fault α} {b : Answer} (h : reading answer s result = .ok (b, left)) :
    left = s := by
  rw [reading] at h
  cases result with
  | error fault => simp [Except.map] at h
  | ok a =>
    simp only [Except.map, Except.ok.injEq, Prod.mk.injEq] at h
    exact h.2.symm

section Apply

variable {settings : HubSettings} {now : Instant} {fresh : FreshIds} {s left : Store}
  {op : Operation} {answer : Answer}

theorem effect_of_apply (h : op.apply settings now fresh s = .ok (answer, left)) :
    Effect settings now fresh s op answer left := by
  cases op with
  | define user input =>
    rcases changing_eq_ok.1 h with ⟨d, hd, rfl⟩
    rcases Store.define_eq_ok.1 hd with ⟨⟨hnamed, hfree⟩, rfl, rfl⟩
    exact .define hnamed hfree
  | record input =>
    rcases changing_eq_ok.1 h with ⟨l, hl, rfl⟩
    rcases Store.record_eq_ok.1 hl with ⟨⟨huser, hfield⟩, rfl, rfl⟩
    exact .record huser hfield
  | createEvent user input =>
    rcases changing_eq_ok.1 h with ⟨e, he, rfl⟩
    rcases Store.createEvent_eq_ok.1 he with ⟨⟨hnamed, hordered, hsound⟩, rfl, rfl⟩
    exact .createEvent hnamed hordered hsound
  | updateEvent user id change =>
    rcases changing_eq_ok.1 h with ⟨changed, hchanged, rfl⟩
    rcases Store.updateEvent_eq_ok.1 hchanged with
      ⟨e, ⟨hfound, hunstarted, hactive, hfits⟩, rfl, rfl⟩
    exact .updateEvent hfound hunstarted hactive hfits
  | setRewards user id rewards =>
    rcases changing_eq_ok.1 h with ⟨changed, hchanged, rfl⟩
    rcases Store.setRewards_eq_ok.1 hchanged with ⟨e, hfound, rfl, rfl⟩
    exact .setRewards hfound
  | request user eventId =>
    rcases changing_eq_ok.1 h with ⟨r, hr, rfl⟩
    rcases Store.request_eq_ok.1 hr with
      ⟨e, ⟨hfound, hactive, hstarted, hunended, halone⟩, rfl, rfl⟩
    exact .request hfound hactive hstarted hunended halone
  | approve user id =>
    rcases changing_eq_ok.1 h with ⟨decided, hdecided, rfl⟩
    rcases Store.approve_eq_ok.1 hdecided with ⟨r, e, ⟨hfound, hpending, hevent⟩, rfl, rfl⟩
    exact .approve hfound hpending hevent
  | reject user id reason =>
    rcases changing_eq_ok.1 h with ⟨decided, hdecided, rfl⟩
    rcases Store.decide_eq_ok.1 hdecided with ⟨r, ⟨hfound, hpending⟩, rfl, rfl⟩
    exact .reject hfound hpending
  | _ =>
    -- what is left are looks, which answer and change nothing
    have hleft := left_eq_of_reading h
    subst hleft
    exact .look rfl h

/-- The rules say all that operations do, and no more. -/
theorem apply_eq_ok_iff_effect :
    op.apply settings now fresh s = .ok (answer, left) ↔
      Effect settings now fresh s op answer left := by
  constructor
  · exact effect_of_apply
  · intro h
    cases h with
    | look _ answered => exact answered
    | define named free =>
      exact changing_eq_ok.2 ⟨_, Store.define_eq_ok.2 ⟨⟨named, free⟩, rfl, rfl⟩, rfl⟩
    | record user field =>
      exact changing_eq_ok.2 ⟨_, Store.record_eq_ok.2 ⟨⟨user, field⟩, rfl, rfl⟩, rfl⟩
    | createEvent named ordered sound =>
      exact changing_eq_ok.2
        ⟨_, Store.createEvent_eq_ok.2 ⟨⟨named, ordered, sound⟩, rfl, rfl⟩, rfl⟩
    | @updateEvent _ _ _ e found unstarted active fits =>
      exact changing_eq_ok.2
        ⟨_, Store.updateEvent_eq_ok.2 ⟨e, ⟨found, unstarted, active, fits⟩, rfl, rfl⟩, rfl⟩
    | @setRewards _ _ _ e found =>
      exact changing_eq_ok.2 ⟨_, Store.setRewards_eq_ok.2 ⟨e, found, rfl, rfl⟩, rfl⟩
    | @request _ _ e found active started unended alone =>
      exact changing_eq_ok.2
        ⟨_, Store.request_eq_ok.2 ⟨e, ⟨found, active, started, unended, alone⟩, rfl, rfl⟩, rfl⟩
    | @approve _ _ r e found pending event =>
      exact changing_eq_ok.2
        ⟨_, Store.approve_eq_ok.2 ⟨r, e, ⟨found, pending, event⟩, rfl, rfl⟩, rfl⟩
    | @reject _ _ _ r found pending =>
      exact changing_eq_ok.2 ⟨_, Store.decide_eq_ok.2 ⟨r, ⟨found, pending⟩, rfl, rfl⟩, rfl⟩

/-- An operation that is performed with success is one that has its effect. -/
theorem effect_of_perform (h : op.perform settings now fresh s = (.ok answer, left)) :
    Effect settings now fresh s op answer left := by
  rw [perform] at h
  cases happly : op.apply settings now fresh s with
  | ok p =>
    rw [happly] at h
    cases h
    exact effect_of_apply happly
  | error fault =>
    rw [happly] at h
    cases h

end Apply

end Operation
end EventRewards
