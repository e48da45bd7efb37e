import EventRewards.Proofs.Hub.RequestLife
import Mathlib.Tactic.IntervalCases

/-!
# What other users do

The hub keeps its users apart.  `AlikeFor` holds of stores that a user cannot tell apart: they have the
same definitions and events, and the same logs and requests of that user.  What is about the user, or
about what all users share, is answered the same in stores that are alike, and leaves stores that are
alike again; what another user does, like a look, leaves a store that is alike to the one before.  So
two runs that differ in what other users do show the user the same.
-/

namespace EventRewards

/-! ## Whom an operation is about -/

namespace Operation

/-- The user whose logs or requests an operation is about, if it is about those of one user. -/
def owner? (s : Store) : Operation → Option String
  | .record input => some input.userId
  | .request user _ => some user
  | .approve _ id | .reject _ id _ => (s.request? id).map (·.userId)
  | _ => none

/-- Whether an operation changes what all users share: the definitions or the events. -/
def plans : Operation → Bool
  | .define _ _ | .createEvent _ _ | .updateEvent _ _ _ | .setRewards _ _ _ => true
  | _ => false

/-- Whether an operation is about the logs or requests of another user than the given one. -/
def OfOther (u : String) (s : Store) (op : Operation) : Prop :=
  ∃ v, op.owner? s = some v ∧ v ≠ u

theorem owner?_of_looks {s : Store} {op : Operation} (looks : op.looks = true) :
    op.owner? s = none := by
  cases op with
  | record _ => cases looks
  | request _ _ => cases looks
  | approve _ _ => cases looks
  | reject _ _ _ => cases looks
  | _ => rfl

theorem plans_of_owner? {s : Store} {op : Operation} {v : String} (owned : op.owner? s = some v) :
    op.plans = false := by
  cases op with
  | define _ _ => cases owned
  | createEvent _ _ => cases owned
  | updateEvent _ _ _ => cases owned
  | setRewards _ _ _ => cases owned
  | _ => rfl

end Operation

/-! ## Stores that a user cannot tell apart -/

/-- Stores with the same definitions and events, and the same logs and requests of a user. -/
structure Store.AlikeFor (u : String) (s s' : Store) : Prop where
  definitions : s'.definitions = s.definitions
  events : s'.events = s.events
  logs : s'.logs.filter (·.userId == u) = s.logs.filter (·.userId == u)
  requests : s'.requests.filter (·.userId == u) = s.requests.filter (·.userId == u)

/-- Results that a user cannot tell apart: one fault, or one answer with stores that are alike. -/
inductive AgreeFor (u : String) {α : Type} :
    Except Fault (α × Store) → Except Fault (α × Store) → Prop where
  | fault (fault : Fault) : AgreeFor u (.error fault) (.error fault)
  | answer (a : α) {left left' : Store} (alike : left.AlikeFor u left') :
      AgreeFor u (.ok (a, left)) (.ok (a, left'))

namespace AgreeFor

variable {u : String} {α β : Type}

theorem bind {x : Except Fault β} {f g : β → Except Fault (α × Store)}
    (each : ∀ b, x = .ok b → AgreeFor u (f b) (g b)) : AgreeFor u (x >>= f) (x >>= g) := by
  cases x with
  | error fault => exact .fault fault
  | ok b => exact each b rfl

theorem refuse {p : Prop} [Decidable p] {fault : Fault} {x y : Except Fault (α × Store)}
    (agree : AgreeFor u x y) :
    AgreeFor u (if p then .error fault else x) (if p then .error fault else y) := by
  split
  · exact .fault fault
  · exact agree

theorem changing {x y : Except Fault (α × Store)} (answer : α → Answer) (agree : AgreeFor u x y) :
    AgreeFor u (Operation.changing answer x) (Operation.changing answer y) := by
  cases agree with
  | fault fault => exact .fault fault
  | answer a alike => exact .answer (answer a) alike

end AgreeFor

namespace Store

variable {u : String} {s s' s'' : Store}

/-- A filter that lets through no more than another one may be applied after it. -/
theorem filter_narrower {α : Type} {p q : α → Bool} (narrower : ∀ a, q a = true → p a = true)
    (l : List α) : (l.filter p).filter q = l.filter q := by
  rw [List.filter_filter]
  refine List.filter_congr ?_
  intro a _
  cases hq : q a with
  | false => rfl
  | true => simp [narrower a hq]

/-- The requests of a user, after a decision on a request. -/
theorem filter_replaceRequest {r decided : RewardRequest}
    (distinct : (s.requests.map (·.id)).Nodup) (found : s.request? r.id = some r)
    (claim : r.SameClaim decided) :
    (s.replaceRequest decided).requests.filter (·.userId == u) =
      Keyed.replace (·.id) (s.requests.filter (·.userId == u)) decided := by
  apply Keyed.filter_replace
  intro q hq hid
  have heq : q = r :=
    List.inj_on_of_nodup_map distinct hq (of_request? found).1 (hid.trans claim.id)
  rw [heq, claim.userId]

namespace AlikeFor

theorem refl (s : Store) : s.AlikeFor u s :=
  ⟨rfl, rfl, rfl, rfl⟩

theorem symm (h : s.AlikeFor u s') : s'.AlikeFor u s :=
  ⟨h.definitions.symm, h.events.symm, h.logs.symm, h.requests.symm⟩

theorem trans (h : s.AlikeFor u s') (h' : s'.AlikeFor u s'') : s.AlikeFor u s'' :=
  ⟨h'.definitions.trans h.definitions, h'.events.trans h.events, h'.logs.trans h.logs,
    h'.requests.trans h.requests⟩

/-- Stores stay alike when each is exchanged for one that is alike to it. -/
theorem exchange {t t' : Store} (h : s.AlikeFor u s') (kept : s.AlikeFor u t)
    (kept' : s'.AlikeFor u t') : t.AlikeFor u t' :=
  (kept.symm.trans h).trans kept'

/-- A decision on a request of another user changes nothing that the user sees. -/
theorem of_replaceRequest {r decided : RewardRequest} (distinct : (s.requests.map (·.id)).Nodup)
    (found : s.request? r.id = some r) (claim : r.SameClaim decided) (other : r.userId ≠ u) :
    s.AlikeFor u (s.replaceRequest decided) := by
  refine ⟨rfl, rfl, rfl, (filter_replaceRequest distinct found claim).trans ?_⟩
  apply Keyed.replace_eq_self
  intro q hq hid
  have hmem := List.mem_filter.1 hq
  have heq : q = r :=
    List.inj_on_of_nodup_map distinct hmem.1 (of_request? found).1 (hid.trans claim.id)
  have huser : q.userId = u := by simpa using hmem.2
  exact other (heq ▸ huser)

/-! ## What is looked up -/

section Lookups

variable (h : s.AlikeFor u s')
include h

theorem definition? : s'.definition? = s.definition? := by
  funext id
  unfold Store.definition?
  rw [h.definitions]

theorem definitionsById (ids : List String) : s'.definitionsById ids = s.definitionsById ids := by
  unfold Store.definitionsById
  rw [h.definition?]

theorem findEvent (id : String) : s'.findEvent id = s.findEvent id := by
  unfold Store.findEvent event?
  rw [h.events]

theorem checkCondition (t : Tree) : s'.checkCondition t = s.checkCondition t := by
  unfold Store.checkCondition assertSound checkTree
  rw [h.definitionsById]

theorem checkChange (e : Event) (change : EventChange) :
    s'.checkChange e change = s.checkChange e change := by
  have hcondition : s'.checkNewCondition e.condition change.condition =
      s.checkNewCondition e.condition change.condition := by
    cases change.condition with
    | none => rfl
    | some t => simp only [checkNewCondition, h.checkCondition]
  unfold Store.checkChange
  rw [hcondition]

/-- A query for logs of the user alone finds the same in both stores. -/
theorem queryLogs {q : LogQuery} (own : q.userId = some u) : s'.queryLogs q = s.queryLogs q := by
  have hnarrower : ∀ l : Log, q.admits l = true → (l.userId == u) = true := by
    intro l hl
    simp only [LogQuery.admits, own, Option.all_some, Bool.and_eq_true] at hl
    exact hl.1.1
  calc
    s'.queryLogs q = (s'.logs.filter (·.userId == u)).filter q.admits :=
      (filter_narrower hnarrower _).symm
    _ = (s.logs.filter (·.userId == u)).filter q.admits := by rw [h.logs]
    _ = s.queryLogs q := filter_narrower hnarrower _

theorem listRequests {q : RequestQuery} (own : q.userId = some u) :
    s'.listRequests q = s.listRequests q := by
  have hnarrower : ∀ r : RewardRequest, q.admits r = true → (r.userId == u) = true := by
    intro r hr
    simp only [RequestQuery.admits, own, Option.all_some, Bool.and_eq_true] at hr
    exact hr.1.2
  have hfilter : s'.requests.filter q.admits = s.requests.filter q.admits := by
    calc
      s'.requests.filter q.admits = (s'.requests.filter (·.userId == u)).filter q.admits :=
        (filter_narrower hnarrower _).symm
      _ = (s.requests.filter (·.userId == u)).filter q.admits := by rw [h.requests]
      _ = s.requests.filter q.admits := filter_narrower hnarrower _
  unfold Store.listRequests
  rw [hfilter]

theorem hasOpenRequest (eventId : String) :
    s'.hasOpenRequest u eventId = s.hasOpenRequest u eventId := by
  have hown : ∀ t : Store, t.hasOpenRequest u eventId =
      (t.requests.filter (·.userId == u)).any fun r => r.eventId == eventId && r.status.isOpen := by
    intro t
    rw [List.any_filter, Store.hasOpenRequest]
    congr 1
    funext r
    cases r.eventId == eventId with
    | false => simp
    | true => simp
  rw [hown, hown, h.requests]

theorem newRequest (bounded : Bool) (now : Instant) (fresh : FreshIds) (e : Event) :
    s'.newRequest bounded now fresh u e = s.newRequest bounded now fresh u e := by
  have heligibility : s'.eligibility bounded u e = s.eligibility bounded u e := by
    have hlogs : ∀ definitions, s'.queryLogs (eligibilityQuery bounded u e definitions) =
        s.queryLogs (eligibilityQuery bounded u e definitions) := fun _ => h.queryLogs rfl
    simp only [eligibility, h.definitionsById, hlogs]
  unfold Store.newRequest
  rw [heligibility]

/-- A request of the user that is found in one store is found in the other. -/
theorem request? (distinct' : (s'.requests.map (·.id)).Nodup) {id : String} {r : RewardRequest}
    (found : s.request? id = some r) (own : r.userId = u) : s'.request? id = some r := by
  have hr := of_request? found
  have hown : r ∈ s.requests.filter (·.userId == u) :=
    List.mem_filter.2 ⟨hr.1, by simpa using own⟩
  rw [← h.requests] at hown
  have hstored : r ∈ s'.requests := (List.mem_filter.1 hown).1
  rw [← hr.2]
  exact Keyed.find?_of_mem distinct' hstored

theorem owner? (distinct' : (s'.requests.map (·.id)).Nodup) {op : Operation}
    (own : op.owner? s = some u) : op.owner? s' = some u := by
  have hheld : ∀ id, (s.request? id).map (·.userId) = some u →
      (s'.request? id).map (·.userId) = some u := by
    intro id hid
    rcases Option.map_eq_some_iff.1 hid with ⟨r, hfound, huser⟩
    exact Option.map_eq_some_iff.2 ⟨r, h.request? distinct' hfound huser, huser⟩
  cases op with
  | record _ => exact own
  | request _ _ => exact own
  | approve _ id => exact hheld id own
  | reject _ id _ => exact hheld id own
  | _ => cases own

end Lookups

/-! ## Operations on stores that are alike -/

section Operations

variable (h : s.AlikeFor u s') (now : Instant) (fresh : FreshIds)
include h

theorem define (user : String) (input : NewDefinition) :
    AgreeFor u (s.define now fresh user input) (s'.define now fresh user input) := by
  unfold Store.define
  rw [h.definitions]
  apply AgreeFor.refuse
  apply AgreeFor.refuse
  exact .answer _ ⟨rfl, h.events, h.logs, h.requests⟩

theorem record (input : NewLog) :
    AgreeFor u (s.record now fresh input) (s'.record now fresh input) := by
  unfold Store.record
  apply AgreeFor.refuse
  refine .answer _ ⟨h.definitions, h.events, ?_, h.requests⟩
  simp only [List.filter_append, h.logs]

theorem createEvent (user : String) (input : NewEvent) :
    AgreeFor u (s.createEvent now fresh user input) (s'.createEvent now fresh user input) := by
  unfold Store.createEvent
  rw [h.checkCondition, h.events]
  apply AgreeFor.bind
  intro _ _
  apply AgreeFor.bind
  intro _ _
  apply AgreeFor.bind
  intro _ _
  exact .answer _ ⟨h.definitions, rfl, h.logs, h.requests⟩

theorem replaceEvent (e : Event) : (s.replaceEvent e).AlikeFor u (s'.replaceEvent e) := by
  refine ⟨h.definitions, ?_, h.logs, h.requests⟩
  unfold Store.replaceEvent
  rw [h.events]

theorem updateEvent (user id : String) (change : EventChange) :
    AgreeFor u (s.updateEvent now fresh user id change)
      (s'.updateEvent now fresh user id change) := by
  unfold Store.updateEvent
  rw [h.findEvent]
  apply AgreeFor.bind
  intro e _
  apply AgreeFor.bind
  intro _ _
  rw [h.checkChange]
  apply AgreeFor.bind
  intro _ _
  exact .answer _ (h.replaceEvent _)

theorem setRewards (user id : String) (rewards : List (Draft Reward)) :
    AgreeFor u (s.setRewards now fresh user id rewards)
      (s'.setRewards now fresh user id rewards) := by
  unfold Store.setRewards
  rw [h.findEvent]
  apply AgreeFor.bind
  intro e _
  exact .answer _ (h.replaceEvent _)

theorem request (bounded : Bool) (eventId : String) :
    AgreeFor u (s.request bounded now fresh u eventId) (s'.request bounded now fresh u eventId) := by
  unfold Store.request
  rw [h.findEvent]
  apply AgreeFor.bind
  intro e _
  apply AgreeFor.bind
  intro _ _
  rw [h.hasOpenRequest, h.newRequest]
  apply AgreeFor.refuse
  refine .answer _ ⟨h.definitions, h.events, h.logs, ?_⟩
  simp only [List.filter_append, h.requests]

/-! Decisions need ids that are distinct, as the request that is decided is found by its id. -/

variable (distinct : (s.requests.map (·.id)).Nodup) (distinct' : (s'.requests.map (·.id)).Nodup)
  {id : String} {r : RewardRequest} (found : s.request? id = some r) (own : r.userId = u)
include distinct distinct' found own

theorem decide (operator : String) (wanted : RequestStatus) (reason : Option String)
    (rewards : List Reward) :
    AgreeFor u (s.decide now operator wanted reason rewards id)
      (s'.decide now operator wanted reason rewards id) := by
  have hid := (of_request? found).2
  subst hid
  have found' : s'.request? r.id = some r := h.request? distinct' found own
  have hleft : (s.replaceRequest (decidedRequest now operator wanted reason rewards r)).AlikeFor u
      (s'.replaceRequest (decidedRequest now operator wanted reason rewards r)) := by
    refine ⟨h.definitions, h.events, h.logs, ?_⟩
    rw [filter_replaceRequest distinct found RewardRequest.decidedRequest_sameClaim,
      filter_replaceRequest distinct' found' RewardRequest.decidedRequest_sameClaim, h.requests]
  unfold Store.decide
  rw [findRequest_eq_ok.2 found, findRequest_eq_ok.2 found']
  apply AgreeFor.bind
  intro r' hr'
  cases hr'
  split
  · exact .answer _ hleft
  · exact .fault _

theorem approve (operator : String) :
    AgreeFor u (s.approve now operator id) (s'.approve now operator id) := by
  unfold Store.approve
  rw [findRequest_eq_ok.2 found, findRequest_eq_ok.2 (h.request? distinct' found own)]
  apply AgreeFor.bind
  intro r' _
  rw [h.findEvent]
  apply AgreeFor.bind
  intro e _
  exact h.decide now distinct distinct' found own operator _ _ _

end Operations

end AlikeFor

end Store

/-! ## Steps -/

section Steps

variable {settings : HubSettings} {u : String} {s s' : Store}

/-- An operation that changes what all share does so whatever other users have. -/
theorem Operation.agree_of_plans {op : Operation} (alike : s.AlikeFor u s')
    (plans : op.plans = true) (now : Instant) (fresh : FreshIds) :
    AgreeFor u (op.apply settings now fresh s) (op.apply settings now fresh s') := by
  cases op with
  | define user input => exact (alike.define now fresh user input).changing _
  | createEvent user input => exact (alike.createEvent now fresh user input).changing _
  | updateEvent user id change => exact (alike.updateEvent now fresh user id change).changing _
  | setRewards user id rewards => exact (alike.setRewards now fresh user id rewards).changing _
  | _ => cases plans

/-- An operation about the user's own logs and requests depends on no one else's. -/
theorem Operation.agree_of_owner? (settings : HubSettings) {op : Operation} (alike : s.AlikeFor u s')
    (distinct : (s.requests.map (·.id)).Nodup) (distinct' : (s'.requests.map (·.id)).Nodup)
    (own : op.owner? s = some u) (now : Instant) (fresh : FreshIds) :
    AgreeFor u (op.apply settings now fresh s) (op.apply settings now fresh s') := by
  cases op with
  | record input => exact (alike.record now fresh input).changing _
  | request user eventId =>
    have huser : user = u := Option.some.inj own
    subst huser
    exact (alike.request now fresh settings.boundLogs eventId).changing _
  | approve operator id =>
    rcases Option.map_eq_some_iff.1 own with ⟨r, hfound, huser⟩
    exact (alike.approve now distinct distinct' hfound huser operator).changing _
  | reject operator id reason =>
    rcases Option.map_eq_some_iff.1 own with ⟨r, hfound, huser⟩
    exact (alike.decide now distinct distinct' hfound huser operator _ _ _).changing _
  | _ => cases own

namespace Step

variable {step step' : Step}

/-- Results that agree are one outcome, and leave stores that are alike. -/
theorem of_agree (alike : s.AlikeFor u s')
    (agree : AgreeFor u (step.op.apply settings step.now step.fresh s)
      (step.op.apply settings step.now step.fresh s')) :
    step.outcome settings s = step.outcome settings s' ∧
      (step.after settings s).AlikeFor u (step.after settings s') := by
  unfold outcome after Operation.perform
  generalize step.op.apply settings step.now step.fresh s = x at agree
  generalize step.op.apply settings step.now step.fresh s' = y at agree
  cases agree with
  | fault fault => exact ⟨rfl, alike⟩
  | answer a hleft => exact ⟨rfl, hleft⟩

/-- A step that is neither the user's nor about what all share leaves the user's view as it was. -/
theorem alikeFor_after (distinct : (s.requests.map (·.id)).Nodup) (plans : step.op.plans = false)
    (other : step.op.owner? s ≠ some u) : s.AlikeFor u (step.after settings s) := by
  refine after_induction (P := fun left => s.AlikeFor u left) (.refl s) ?_
  intro op answer left hop _ heffect
  rw [hop] at plans other
  cases heffect with
  | look _ _ => exact .refl s
  | define _ _ => cases plans
  | createEvent _ _ _ => cases plans
  | updateEvent _ _ _ _ => cases plans
  | setRewards _ => cases plans
  | @record input _ _ =>
    have huser : input.userId ≠ u := fun heq => other (congrArg some heq)
    refine ⟨rfl, rfl, ?_, rfl⟩
    simp [List.filter_append, Store.newLog, huser]
  | @request user _ e _ _ _ _ _ =>
    have huser : user ≠ u := fun heq => other (congrArg some heq)
    refine ⟨rfl, rfl, rfl, ?_⟩
    simp [List.filter_append, Store.newRequest, huser]
  | @approve _ _ r e found _ _ =>
    have hid := (Store.of_request? found).2
    subst hid
    have huser : r.userId ≠ u := fun heq => other (by simp [Operation.owner?, found, heq])
    exact .of_replaceRequest distinct found RewardRequest.decidedRequest_sameClaim huser
  | @reject _ _ _ r found _ =>
    have hid := (Store.of_request? found).2
    subst hid
    have huser : r.userId ≠ u := fun heq => other (by simp [Operation.owner?, found, heq])
    exact .of_replaceRequest distinct found RewardRequest.decidedRequest_sameClaim huser

end Step

/-- One step, performed on stores that are alike, leaves stores that are alike. -/
theorem Store.AlikeFor.after (alike : s.AlikeFor u s') (distinct : (s.requests.map (·.id)).Nodup)
    (distinct' : (s'.requests.map (·.id)).Nodup) (step : Step) :
    (step.after settings s).AlikeFor u (step.after settings s') := by
  by_cases hplans : step.op.plans = true
  · exact (Step.of_agree alike (Operation.agree_of_plans alike hplans _ _)).2
  · by_cases hown : step.op.owner? s = some u
    · have hagree := Operation.agree_of_owner? settings alike distinct distinct' hown step.now
        step.fresh
      exact (Step.of_agree alike hagree).2
    · -- not the user's in the one store, and so not in the other
      have hown' : step.op.owner? s' ≠ some u := fun h => hown (alike.symm.owner? distinct h)
      have hplans' : step.op.plans = false := Bool.eq_false_of_not_eq_true hplans
      exact alike.exchange (Step.alikeFor_after distinct hplans' hown)
        (Step.alikeFor_after distinct' hplans' hown')

end Steps

/-! ## Runs that differ in what other users do -/

/-- Two steps at the same instant and with the same ids: one operation, or an operation of another user
in the place of a look. -/
structure Step.Beside (u : String) (s s' : Store) (step step' : Step) : Prop where
  now : step'.now = step.now
  fresh : step'.fresh = step.fresh
  op : step'.op = step.op ∨ (step.op.OfOther u s ∧ step'.op.looks = true) ∨
    (step.op.looks = true ∧ step'.op.OfOther u s')

/-- Two runs from the empty store that are beside each other step for step. -/
structure Alongside (settings : HubSettings) (u : String) (steps steps' : List Step) : Prop where
  length : steps'.length = steps.length
  beside : ∀ (n : Nat) (step step' : Step), steps[n]? = some step → steps'[n]? = some step' →
    step.Beside u (Store.empty.run settings (steps.take n))
      (Store.empty.run settings (steps'.take n)) step'

namespace Sample

theorem stepsWithoutAnn_alongside : Alongside settings "bob" steps stepsWithoutAnn := by
  refine ⟨rfl, ?_⟩
  intro n step step' hstep hstep'
  have hlt : n < 10 := (List.getElem?_eq_some_iff.1 hstep).1
  interval_cases n
  all_goals
    cases hstep
    cases hstep'
  · exact ⟨rfl, rfl, .inl rfl⟩
  · exact ⟨rfl, rfl, .inl rfl⟩
  · exact ⟨rfl, rfl, .inl rfl⟩
  · exact ⟨rfl, rfl, .inr (.inl ⟨⟨"ann", rfl, by decide⟩, rfl⟩)⟩
  · exact ⟨rfl, rfl, .inl rfl⟩
  · exact ⟨rfl, rfl, .inr (.inl ⟨⟨"ann", rfl, by decide⟩, rfl⟩)⟩
  · exact ⟨rfl, rfl, .inr (.inl ⟨⟨"ann", rfl, by decide⟩, rfl⟩)⟩
  · exact ⟨rfl, rfl, .inl rfl⟩
  · exact ⟨rfl, rfl, .inl rfl⟩
  · exact ⟨rfl, rfl, .inr (.inl ⟨⟨"ann", by decide +kernel, by decide⟩, rfl⟩)⟩

end Sample

section Runs

variable {settings : HubSettings} {u : String} {s s' : Store} {step step' : Step}
  {steps steps' : List Step}

theorem Step.Beside.eq_of_op (beside : step.Beside u s s' step') (same : step'.op = step.op) :
    step' = step := by
  have hnow := beside.now
  have hfresh := beside.fresh
  cases step
  cases step'
  simp_all

/-- What is of another user may be done or left undone: the user's view stays as it was. -/
theorem Step.alikeFor_of_other (distinct : (s.requests.map (·.id)).Nodup)
    (other : step.op.OfOther u s) : s.AlikeFor u (step.after settings s) := by
  rcases other with ⟨v, hv, hne⟩
  apply alikeFor_after distinct (Operation.plans_of_owner? hv)
  rw [hv]
  exact fun heq => hne (Option.some.inj heq)

/-- Steps beside each other lead from stores that are alike to stores that are alike. -/
theorem Step.Beside.alikeFor (beside : step.Beside u s s' step') (alike : s.AlikeFor u s')
    (distinct : (s.requests.map (·.id)).Nodup) (distinct' : (s'.requests.map (·.id)).Nodup) :
    (step.after settings s).AlikeFor u (step'.after settings s') := by
  rcases beside.op with hsame | ⟨hother, hlooks⟩ | ⟨hlooks, hother⟩
  · rw [beside.eq_of_op hsame]
    exact alike.after distinct distinct' step
  · have hleft : step'.after settings s' = s' := after_of_looks hlooks
    rw [hleft]
    exact alike.exchange (alikeFor_of_other distinct hother) (.refl s')
  · have hleft : step.after settings s = s := after_of_looks hlooks
    rw [hleft]
    exact alike.exchange (.refl s) (alikeFor_of_other distinct' hother)

/-- Where one of two steps beside each other is about the user, they are one step. -/
theorem Step.Beside.eq_of_owner? (beside : step.Beside u s s' step')
    (own : step.op.owner? s = some u ∨ step'.op.owner? s' = some u) : step' = step := by
  rcases beside.op with hsame | ⟨⟨v, hv, hne⟩, hlooks⟩ | ⟨hlooks, ⟨v, hv, hne⟩⟩
  · exact beside.eq_of_op hsame
  · rw [hv, Operation.owner?_of_looks hlooks] at own
    rcases own with heq | hnone
    · exact absurd (Option.some.inj heq) hne
    · cases hnone
  · rw [hv, Operation.owner?_of_looks hlooks] at own
    rcases own with hnone | heq
    · cases hnone
    · exact absurd (Option.some.inj heq) hne

theorem DistinctDraws.take (distinct : DistinctDraws settings steps) (n : Nat) :
    DistinctDraws settings (steps.take n) := by
  have hsplit : DistinctDraws settings (steps.take n ++ steps.drop n) := by
    rw [List.take_append_drop]
    exact distinct
  exact hsplit.of_append

/-- After as many steps of two runs alongside each other the stores are alike. -/
theorem Alongside.alikeFor (alongside : Alongside settings u steps steps')
    (distinct : DistinctDraws settings steps) (distinct' : DistinctDraws settings steps') (n : Nat) :
    (Store.empty.run settings (steps.take n)).AlikeFor u
      (Store.empty.run settings (steps'.take n)) := by
  induction n with
  | zero => exact .refl Store.empty
  | succ n ih =>
    rw [List.take_add_one, List.take_add_one]
    cases hstep : steps[n]? with
    | none =>
      -- both runs are over
      have hlength : steps'.length ≤ n := by
        rw [alongside.length]
        exact List.getElem?_eq_none_iff.1 hstep
      rw [List.getElem?_eq_none_iff.2 hlength]
      simpa using ih
    | some step =>
      have hlt : n < steps'.length := by
        rw [alongside.length]
        exact (List.getElem?_eq_some_iff.1 hstep).1
      have hstep' : steps'[n]? = some steps'[n] := List.getElem?_eq_getElem hlt
      rw [hstep', Option.toList_some, Option.toList_some, Store.run_snoc, Store.run_snoc]
      exact (alongside.beside n step _ hstep hstep').alikeFor ih
        (distinct.take n).requests_distinct (distinct'.take n).requests_distinct

/-- What other users do cannot be seen.  In two runs that differ in operations of other users only, a
user has the same requests after every step, and each record or request of the user and each decision
on one of the user's requests has the same outcome. -/
theorem other_users_unseen (alongside : Alongside settings u steps steps')
    (distinct : DistinctDraws settings steps) (distinct' : DistinctDraws settings steps') :
    (∀ (n : Nat) (q : RequestQuery), q.userId = some u →
      (Store.empty.run settings (steps.take n)).listRequests q =
        (Store.empty.run settings (steps'.take n)).listRequests q) ∧
    ∀ (n : Nat) (step step' : Step), steps[n]? = some step → steps'[n]? = some step' →
      (step.op.owner? (Store.empty.run settings (steps.take n)) = some u ∨
        step'.op.owner? (Store.empty.run settings (steps'.take n)) = some u) →
      step.outcome settings (Store.empty.run settings (steps.take n)) =
        step'.outcome settings (Store.empty.run settings (steps'.take n)) := by
  constructor
  · intro n q hq
    exact ((alongside.alikeFor distinct distinct' n).listRequests hq).symm
  · intro n step step' hstep hstep' hown
    have halike := alongside.alikeFor distinct distinct' n
    have hrequests := (distinct.take n).requests_distinct
    have hrequests' := (distinct'.take n).requests_distinct
    have heq : step' = step := (alongside.beside n step step' hstep hstep').eq_of_owner? hown
    subst heq
    have hown' : step'.op.owner? (Store.empty.run settings (steps.take n)) = some u := by
      rcases hown with h | h
      · exact h
      · exact halike.symm.owner? hrequests h
    have hagree := Operation.agree_of_owner? settings halike hrequests hrequests' hown' step'.now
      step'.fresh
    exact (Step.of_agree halike hagree).1

/-- Bob's one request is the same whether or not Ann visits, asks and is approved. -/
theorem other_users_unseen_by_bob :
    (Store.empty.run Sample.settings Sample.steps).requests.length = 2 ∧
      (Store.empty.run Sample.settings Sample.stepsWithoutAnn).requests.length = 1 ∧
      (Store.empty.run Sample.settings Sample.steps).listRequests ⟨none, some "bob", none⟩ =
        (Store.empty.run Sample.settings Sample.stepsWithoutAnn).listRequests
          ⟨none, some "bob", none⟩ := by
  have hdistinct : DistinctDraws Sample.settings Sample.stepsWithoutAnn := by
    rw [DistinctDraws]
    decide +kernel
  have hunseen := other_users_unseen Sample.stepsWithoutAnn_alongside Sample.steps_distinct
    hdistinct
  refine ⟨?_, ?_, hunseen.1 10 _ rfl⟩
  · decide +kernel
  · decide +kernel

end Runs

end EventRewards
