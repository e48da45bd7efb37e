import EventRewards.Proofs.Hub.Eligibility
import EventRewards.Proofs.Hub.EventLife
import EventRewards.Proofs.Hub.RequestLife

/-!
# Verdicts that can be derived again

A request keeps the logs on which it was judged.  Its event has started, so that it keeps its
condition and its schedule; definitions stay as they were made; and logs are only added.  So for as
long as the clock does not go back, the verdict on a request can be derived again from what is stored.
-/

namespace EventRewards

variable {settings : HubSettings} {s : Store}

theorem Event.SamePlan.countsFor_eq {e e' : Event} (h : e.SamePlan e') (bounded : Bool)
    (userId : String) (l : Log) : l.countsFor bounded userId e' = l.countsFor bounded userId e := by
  rcases h with ⟨_, _, _, rfl⟩
  rfl

/-- A new request is insufficient exactly when its logs do not meet the condition. -/
theorem RewardRequest.newRequest_insufficient_iff {bounded : Bool} {now : Instant}
    {fresh : FreshIds} {userId : String} {e : Event} :
    (s.newRequest bounded now fresh userId e).status = .insufficient ↔
      e.condition.evaluate (s.definitionsById e.condition.conditionIds)
        (s.newRequest bounded now fresh userId e).logs = false := by
  have hverdict : e.condition.evaluate (s.definitionsById e.condition.conditionIds)
      (s.newRequest bounded now fresh userId e).logs = (s.eligibility bounded userId e).1 := rfl
  rw [hverdict]
  exact newRequest_insufficient bounded now fresh userId e

/-- What is stored about a request and its event, at the end of a run whose clock never goes
backwards, gives the logs on which the request was judged and the verdict on it once more. -/
theorem verdict_derived_again {steps : List Step} (distinct : DistinctDraws settings steps)
    (forward : ClockForward steps) {r : RewardRequest}
    (hr : r ∈ (Store.empty.run settings steps).requests) :
    ∃ before step rest, ∃ first : RewardRequest, ∃ e : Event, steps = before ++ step :: rest ∧
      first.MadeBy settings step (Store.empty.run settings before) ∧ first.id = r.id ∧
      (Store.empty.run settings steps).event? r.eventId = some e ∧
      (Store.empty.run settings before).logs <+: (Store.empty.run settings steps).logs ∧
      (r.logs = (Store.empty.run settings before).logs.filter fun l =>
        l.countsFor settings.boundLogs r.userId e &&
          ((Store.empty.run settings steps).definitionsById e.condition.conditionIds).any
            (·.fieldName == l.fieldName)) ∧
      (e.condition.evaluate
          ((Store.empty.run settings steps).definitionsById e.condition.conditionIds) r.logs =
        false ↔ r.status = .insufficient) := by
  rcases RewardRequest.exists_made (distinct.request?_of_mem hr) with
    ⟨before, step, rest, first, rfl, hturn, hlater⟩
  refine ⟨before, step, rest, first, ?_⟩
  have hmade := hturn.madeBy
  cases hturn with
  | @made user e _ _ found _ started _ _ =>
    -- the event as it was then and as it is now have the same plan
    rcases Event.samePlan_run settings found started forward.le_of_mem with
      ⟨e', hfound, hplan⟩
    -- a sound condition refers to some definitions, all of which stay
    have hsound := (Store.events_proper before found).present.sound
    have hdefinitions := Store.definitionsById_run settings hsound (step :: rest)
    have hknown := Store.definitionsById_ne_nil hsound
    have hlogs := Store.eligibility_logs settings.boundLogs user e _ hknown
    rw [Store.run_append]
    refine ⟨e', rfl, hmade, hlater.id.symm, ?_, Store.logs_run _, ?_⟩
    · rw [hlater.eventId]
      exact hfound
    · rw [hplan.condition_eq, hdefinitions, hlater.insufficient_iff, hlater.logs, hlater.userId,
        RewardRequest.newRequest_insufficient_iff]
      refine ⟨hlogs.trans (List.filter_congr ?_), Iff.rfl⟩
      intro l _
      rw [hplan.countsFor_eq]
      rfl

/-- What is stored at the end of the small run tells of both requests once more: Ann's was judged on her
visit, on which the verdict is true, and Bob's is insufficient, the verdict being false. -/
theorem verdict_derived_again_for_ann_and_bob :
    (∃ r ∈ (Store.empty.run Sample.settings Sample.steps).requests, r.userId = "ann" ∧
      r.logs.map (·.fieldName) = ["visits"] ∧
      ∃ e, (Store.empty.run Sample.settings Sample.steps).event? r.eventId = some e ∧
        e.condition.evaluate ((Store.empty.run Sample.settings Sample.steps).definitionsById
          e.condition.conditionIds) r.logs = true) ∧
    ∃ r ∈ (Store.empty.run Sample.settings Sample.steps).requests, r.userId = "bob" ∧
      ∃ e, (Store.empty.run Sample.settings Sample.steps).event? r.eventId = some e ∧
        e.condition.evaluate ((Store.empty.run Sample.settings Sample.steps).definitionsById
          e.condition.conditionIds) r.logs = false := by
  have hann : ∃ r ∈ (Store.empty.run Sample.settings Sample.steps).requests,
      r.userId = "ann" ∧ r.logs.map (·.fieldName) = ["visits"] ∧ r.status ≠ .insufficient := by
    decide +kernel
  have hbob : ∃ r ∈ (Store.empty.run Sample.settings Sample.steps).requests,
      r.userId = "bob" ∧ r.status = .insufficient := by
    decide +kernel
  constructor
  · rcases hann with ⟨r, hr, huser, hlogs, hstatus⟩
    rcases verdict_derived_again Sample.steps_distinct Sample.steps_forward hr with
      ⟨_, _, _, _, e, _, _, _, hevent, _, _, hverdict⟩
    refine ⟨r, hr, huser, hlogs, e, hevent, ?_⟩
    rw [← Bool.not_eq_false]
    intro hfalse
    exact hstatus (hverdict.1 hfalse)
  · rcases hbob with ⟨r, hr, huser, hstatus⟩
    rcases verdict_derived_again Sample.steps_distinct Sample.steps_forward hr with
      ⟨_, _, _, _, e, _, _, _, hevent, _, _, hverdict⟩
    exact ⟨r, hr, huser, e, hevent, hverdict.2 hstatus⟩

end EventRewards
