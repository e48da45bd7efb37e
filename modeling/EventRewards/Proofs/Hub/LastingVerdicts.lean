import EventRewards.Proofs.Hub.Eligibility
import EventRewards.Proofs.Hub.EventLife
import EventRewards.Proofs.Hub.RequestLife

/-!
# Verdicts that last

A user who has met the condition of an event meets it ever after.  The event has started, so that it
keeps its condition and its schedule; the definitions that the condition refers to stay; and of the
logs that counted none goes, while more of them can only help.  So no request that is found sufficient
is followed by one of the same user for the same event that is found insufficient.
-/

namespace EventRewards

variable {settings : HubSettings} {s s' : Store}

/-- Who was eligible stays eligible while the event keeps its plan, the same definitions are fetched
for its condition, and logs are only added. -/
theorem Store.eligibility_lasts {bounded : Bool} {userId : String} {e e' : Event}
    (plan : e.SamePlan e')
    (definitions : s'.definitionsById e.condition.conditionIds =
      s.definitionsById e.condition.conditionIds)
    (logs : s.logs <+: s'.logs) (eligible : (s.eligibility bounded userId e).1 = true) :
    (s'.eligibility bounded userId e').1 = true := by
  rcases plan with ⟨_, _, _, rfl⟩
  have hmet : e.condition.evaluate (s.definitionsById e.condition.conditionIds)
      (s.queryLogs (eligibilityQuery bounded userId e
        (s.definitionsById e.condition.conditionIds))) = true := eligible
  -- the query is made from the schedule and the definitions, so that both stores are asked the same
  have hmet' : e.condition.evaluate (s.definitionsById e.condition.conditionIds)
      (s'.queryLogs (eligibilityQuery bounded userId e
        (s.definitionsById e.condition.conditionIds))) = true := by
    apply Tree.evaluate_mono _ hmet
    intro l hl
    have hlogged := List.mem_filter.1 hl
    exact ⟨l, List.mem_filter.2 ⟨logs.subset hlogged.1, hlogged.2⟩, rfl, rfl⟩
  rw [← definitions] at hmet'
  exact hmet'

/-- Over any stretch of a run that leaves an event its plan, who was eligible for it stays so. -/
theorem Store.eligibility_run {bounded : Bool} {userId eventId : String} {e e' : Event}
    {before : List Step}
    (found : (Store.empty.run settings before).event? eventId = some e) (plan : e.SamePlan e')
    (eligible : ((Store.empty.run settings before).eligibility bounded userId e).1 = true)
    (rest : List Step) :
    ((Store.empty.run settings (before ++ rest)).eligibility bounded userId e').1 = true := by
  have hsound : e.condition.root.Sound (Store.empty.run settings before).definition? :=
    (Store.events_proper before found).present.sound
  rw [Store.run_append]
  apply Store.eligibility_lasts plan _ _ eligible
  · exact Store.definitionsById_run settings hsound rest
  · exact Store.logs_run rest

/-- A request that is sufficient when it is made would be so at any later time, while the event keeps
its plan. -/
theorem RewardRequest.newRequest_sufficient_run {bounded : Bool} {userId eventId : String}
    {e e' : Event} {before : List Step}
    (found : (Store.empty.run settings before).event? eventId = some e) (plan : e.SamePlan e')
    {now later : Instant} {fresh fresh' : FreshIds}
    (sufficient : ((Store.empty.run settings before).newRequest bounded now fresh userId e).status ≠
      .insufficient) (rest : List Step) :
    ((Store.empty.run settings (before ++ rest)).newRequest bounded later fresh' userId e').status ≠
      .insufficient := by
  have heligible : ((Store.empty.run settings before).eligibility bounded userId e).1 = true := by
    simpa [newRequest_insufficient] using sufficient
  have heligible' := Store.eligibility_run found plan heligible rest
  simpa [newRequest_insufficient] using heligible'

/-- A request for an event that is not found insufficient when it is made.  In a run whose clock never
goes backwards each later request of the same user for the same event fails, or it is made pending or
approved, whatever else is done in between. -/
theorem never_insufficient_again {before rest : List Step} {step : Step}
    (forward : ClockForward (before ++ step :: rest)) {user eventId : String} {r : RewardRequest}
    (asked : step.op = .request user eventId)
    (answered : step.outcome settings (Store.empty.run settings before) = .ok (.request r))
    (sufficient : r.status ≠ .insufficient) :
    ∀ middle later others, rest = middle ++ later :: others →
      later.op = .request user eventId →
      (∃ fault, later.outcome settings (Store.empty.run settings (before ++ step :: middle)) =
        .error fault) ∨
      ∃ r', later.outcome settings (Store.empty.run settings (before ++ step :: middle)) =
          .ok (.request r') ∧
        (r'.status = .pending ∨ r'.status = .approved) := by
  rintro middle later others rfl hagain
  rcases Step.exists_of_request asked answered with ⟨e, hfound, hstarted, hrequest⟩
  cases hrequest
  cases houtcome : later.outcome settings (Store.empty.run settings (before ++ step :: middle)) with
  | error fault => exact .inl ⟨fault, rfl⟩
  | ok answer =>
    rcases Step.exists_of_request hagain houtcome with ⟨e', hfound', _, hrequest'⟩
    -- the event that is found for the later request has the plan that it had at the first
    have hclock : ∀ passed ∈ step :: middle, step.now ≤ passed.now := by
      intro passed hpassed
      apply forward.le_of_mem
      rw [← List.cons_append]
      exact List.mem_append_left _ hpassed
    have hplan : e.SamePlan e' := by
      rcases Event.samePlan_run settings hfound hstarted hclock with ⟨last, hlast, hsame⟩
      rw [← Store.run_append, hfound'] at hlast
      cases hlast
      exact hsame
    refine .inr ⟨_, congrArg _ hrequest', ?_⟩
    rcases RewardRequest.newRequest_status_cases settings.boundLogs later.now later.fresh user e'
      with hpending | hinsufficient | happroved
    · exact .inl hpending
    · exact absurd hinsufficient
        (RewardRequest.newRequest_sufficient_run hfound hplan sufficient (step :: middle))
    · exact .inr happroved

namespace Sample

/-- The status of the request that a step answers. -/
def status? : Except Fault Answer → Option RequestStatus
  | .ok (.request r) => some r.status
  | _ => none

theorem exists_of_status? {outcome : Except Fault Answer} {status : RequestStatus}
    (h : status? outcome = some status) :
    ∃ r, outcome = .ok (.request r) ∧ r.status = status := by
  unfold status? at h
  split at h
  · exact ⟨_, rfl, Option.some.inj h⟩
  · cases h

end Sample

/-- When Ann asks once more, after a rejection, her request is pending again. -/
theorem never_insufficient_again_for_ann :
    ∃ r, Sample.secondTry.outcome Sample.settings (Store.empty.run Sample.settings
        (Sample.steps.take 5 ++ Sample.firstTry :: Sample.rejection)) = .ok (.request r) ∧
      (r.status = .pending ∨ r.status = .approved) := by
  have hforward : ClockForward (Sample.steps.take 5 ++ Sample.firstTry ::
      (Sample.rejection ++ [Sample.secondTry])) := by
    rw [ClockForward]
    decide +kernel
  have hfirst : Sample.status? (Sample.firstTry.outcome Sample.settings
      (Store.empty.run Sample.settings (Sample.steps.take 5))) = some .pending := by
    decide +kernel
  have hsecond : Sample.status? (Sample.secondTry.outcome Sample.settings
      (Store.empty.run Sample.settings
        (Sample.steps.take 5 ++ Sample.firstTry :: Sample.rejection))) ≠ none := by
    decide +kernel
  rcases Sample.exists_of_status? hfirst with ⟨r, hanswered, hstatus⟩
  have hsufficient : r.status ≠ .insufficient := by
    rw [hstatus]
    decide
  rcases never_insufficient_again hforward rfl hanswered hsufficient _ _ [] rfl rfl with
    ⟨fault, hfault⟩ | hgranted
  · rw [hfault] at hsecond
    exact absurd rfl hsecond
  · exact hgranted

end EventRewards
