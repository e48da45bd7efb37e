import EventRewards.Proofs.Hub.Runs

/-!
# What a step does to a document

Definitions and logs are only added.  The event and the request under an id go through a step in one
of a few ways, which `Event.Turn` and `RewardRequest.Turn` list together with what they take: the
operation, its answer and the conditions under which it succeeds.  Laws about the course of a document
over a run are proved by cases on its turns.
-/

namespace EventRewards

variable {settings : HubSettings} {step : Step} {s : Store}

/-! ## Definitions and logs -/

namespace Store

theorem definition?_after {id : String} {d : Definition} (found : s.definition? id = some d) :
    (step.after settings s).definition? id = some d := by
  refine Step.after_induction (P := fun left => left.definition? id = some d) found ?_
  intro op answer left _ _ heffect
  cases heffect with
  | define _ _ =>
    rw [definition?_append, found]
    rfl
  | _ => exact found

theorem definition?_run {id : String} {d : Definition} (found : s.definition? id = some d)
    (steps : List Step) : (s.run settings steps).definition? id = some d :=
  run_induction (P := fun s => s.definition? id = some d) found fun _ _ _ h =>
    definition?_after h

/-- The definitions fetched for a sound condition are the same ever after. -/
theorem definitionsById_run (settings : HubSettings) {t : Tree}
    (sound : t.root.Sound s.definition?) (steps : List Step) :
    (s.run settings steps).definitionsById t.conditionIds = s.definitionsById t.conditionIds := by
  refine List.filterMap_congr ?_
  intro id hid
  rcases Tree.exists_of_mem_conditionIds sound hid with ⟨d, hfound⟩
  rw [hfound]
  exact definition?_run hfound steps

theorem logs_after (step : Step) : s.logs <+: (step.after settings s).logs := by
  refine Step.after_induction (P := fun left => s.logs <+: left.logs) (List.prefix_refl _) ?_
  intro op answer left _ _ heffect
  cases heffect with
  | record _ _ => exact List.prefix_append _ _
  | _ => exact List.prefix_refl _

theorem logs_run (steps : List Step) : s.logs <+: (s.run settings steps).logs :=
  run_induction (P := fun left => s.logs <+: left.logs) (List.prefix_refl _) fun step _ _ h =>
    h.trans (logs_after step)

end Store

/-! ## Events -/

open Store in
/-- What a step does to the event with an id. -/
inductive Event.Turn (settings : HubSettings) (step : Step) (s : Store) :
    Option Event → Option Event → Prop where
  | absent : Turn settings step s none none
  | created {user : String} {input : NewEvent} (asked : step.op = .createEvent user input)
      (answered : step.outcome settings s =
        .ok (.event (newEvent step.now step.fresh user input)))
      (named : Text.isBlankText input.name = false) (ordered : input.startedAt < input.endedAt)
      (sound : input.condition.root.Sound s.definition?) :
      Turn settings step s none (some (newEvent step.now step.fresh user input))
  | kept (e : Event) : Turn settings step s (some e) (some e)
  | updated {user : String} {change : EventChange} {e : Event}
      (asked : step.op = .updateEvent user e.id change)
      (answered : step.outcome settings s =
        .ok (.event (changedEvent step.now step.fresh user change e)))
      (unstarted : step.now < e.startedAt)
      (active : e.status = .active) (fits : change.Fits s e) :
      Turn settings step s (some e) (some (changedEvent step.now step.fresh user change e))
  | rewarded {user : String} {rewards : List (Draft Reward)} {e : Event}
      (asked : step.op = .setRewards user e.id rewards)
      (answered : step.outcome settings s =
        .ok (.event (rewardedEvent step.now step.fresh user rewards e))) :
      Turn settings step s (some e) (some (rewardedEvent step.now step.fresh user rewards e))

theorem Event.Turn.of_eq {before : Option Event} : Event.Turn settings step s before before := by
  cases before with
  | none => exact .absent
  | some e => exact .kept e

/-- An event that is put in the place of the one with its id takes that one's turn; other events
keep theirs. -/
theorem Event.turn_replaceEvent {e changed : Event} {id : String}
    (found : s.event? e.id = some e) (same : changed.id = e.id)
    (turn : Event.Turn settings step s (some e) (some changed)) :
    Event.Turn settings step s (s.event? id) ((s.replaceEvent changed).event? id) := by
  rw [Store.event?_replaceEvent, same]
  by_cases h : e.id = id
  · subst h
    rw [if_pos rfl, found]
    exact turn
  · rw [if_neg h]
    exact .of_eq

theorem Event.turn_after (settings : HubSettings) (step : Step) (s : Store) (id : String) :
    Event.Turn settings step s (s.event? id) ((step.after settings s).event? id) := by
  refine Step.after_induction (P := fun left => Event.Turn settings step s _ (left.event? id))
    .of_eq ?_
  intro op answer left hop houtcome heffect
  -- all but three operations leave the events alone
  cases heffect with
  | createEvent named ordered sound =>
    rw [Store.event?_append]
    cases hfound : s.event? id with
    | some e => exact .kept e
    | none =>
      rw [Option.none_or]
      split
      · exact .created hop houtcome named ordered sound
      · exact .absent
  | updateEvent found unstarted active fits =>
    have hid := (Store.of_event? found).2
    subst hid
    exact turn_replaceEvent found rfl (.updated hop houtcome unstarted active fits)
  | setRewards found =>
    have hid := (Store.of_event? found).2
    subst hid
    exact turn_replaceEvent found rfl (.rewarded hop houtcome)
  | _ => exact .of_eq

/-! ## Requests -/

open Store in
/-- What a step does to the request with an id. -/
inductive RewardRequest.Turn (settings : HubSettings) (step : Step) (s : Store) :
    Option RewardRequest → Option RewardRequest → Prop where
  | absent : Turn settings step s none none
  | made {user : String} {e : Event} (asked : step.op = .request user e.id)
      (answered : step.outcome settings s =
        .ok (.request (s.newRequest settings.boundLogs step.now step.fresh user e)))
      (found : s.event? e.id = some e) (active : e.status = .active)
      (started : e.startedAt ≤ step.now) (unended : step.now ≤ e.endedAt)
      (alone : s.hasOpenRequest user e.id = false) :
      Turn settings step s none
        (some (s.newRequest settings.boundLogs step.now step.fresh user e))
  | kept (r : RewardRequest) : Turn settings step s (some r) (some r)
  | approved {operator : String} {r : RewardRequest} {e : Event}
      (asked : step.op = .approve operator r.id)
      (answered : step.outcome settings s =
        .ok (.request (decidedRequest step.now operator .approved none e.rewards r)))
      (pending : r.status = .pending) (event : s.event? r.eventId = some e) :
      Turn settings step s (some r)
        (some (decidedRequest step.now operator .approved none e.rewards r))
  | rejected {operator : String} {reason : Option String} {r : RewardRequest}
      (asked : step.op = .reject operator r.id reason)
      (answered : step.outcome settings s =
        .ok (.request (decidedRequest step.now operator .rejected reason [] r)))
      (pending : r.status = .pending) :
      Turn settings step s (some r)
        (some (decidedRequest step.now operator .rejected reason [] r))

theorem RewardRequest.Turn.of_eq {before : Option RewardRequest} :
    RewardRequest.Turn settings step s before before := by
  cases before with
  | none => exact .absent
  | some r => exact .kept r

theorem RewardRequest.turn_replaceRequest {r decided : RewardRequest} {id : String}
    (found : s.request? r.id = some r) (same : decided.id = r.id)
    (turn : RewardRequest.Turn settings step s (some r) (some decided)) :
    RewardRequest.Turn settings step s (s.request? id) ((s.replaceRequest decided).request? id) := by
  rw [Store.request?_replaceRequest, same]
  by_cases h : r.id = id
  · subst h
    rw [if_pos rfl, found]
    exact turn
  · rw [if_neg h]
    exact .of_eq

theorem RewardRequest.turn_after (settings : HubSettings) (step : Step) (s : Store) (id : String) :
    RewardRequest.Turn settings step s (s.request? id)
      ((step.after settings s).request? id) := by
  refine Step.after_induction
    (P := fun left => RewardRequest.Turn settings step s _ (left.request? id)) .of_eq ?_
  intro op answer left hop houtcome heffect
  -- all but three operations leave the requests alone
  cases heffect with
  | request found active started unended alone =>
    have hid := (Store.of_event? found).2
    subst hid
    rw [Store.request?_append]
    cases s.request? id with
    | some r => exact .kept r
    | none =>
      rw [Option.none_or]
      split
      · exact .made hop houtcome found active started unended alone
      · exact .absent
  | approve found pending event =>
    have hid := (Store.of_request? found).2
    subst hid
    exact turn_replaceRequest found rfl (.approved hop houtcome pending event)
  | reject found pending =>
    have hid := (Store.of_request? found).2
    subst hid
    exact turn_replaceRequest found rfl (.rejected hop houtcome pending)
  | _ => exact .of_eq

end EventRewards
