import EventRewards.Proofs.Condition.Acceptance
import EventRewards.Proofs.Hub.StoredVerdicts

/-!
# The grounds of requests

The condition of a stored event has been accepted, so that it is not met where nothing of its fields
was logged.  A request made without logs is therefore insufficient, and since decisions leave a request
its logs, whatever is pending or approved rests on a log at any later time.
-/

namespace EventRewards

variable {settings : HubSettings} {step : Step} {s : Store}

/-- Whether a request rests on a log, unless it is insufficient. -/
def RewardRequest.Grounded (r : RewardRequest) : Prop :=
  r.status ≠ .insufficient → r.logs ≠ []

namespace RewardRequest

theorem Grounded.insufficient {r : RewardRequest} (h : r.Grounded) (unlogged : r.logs = []) :
    r.status = .insufficient := by
  by_contra hsufficient
  exact h hsufficient unlogged

/-- A new request for an event whose condition is sound is grounded. -/
theorem newRequest_grounded {bounded : Bool} {now : Instant} {fresh : FreshIds} {user : String}
    {e : Event} (sound : e.condition.root.Sound s.definition?) :
    (s.newRequest bounded now fresh user e).Grounded := by
  intro hsufficient hlogs
  have haccepted : e.condition.isSound (s.definitionsById e.condition.conditionIds) = true :=
    (Store.checkTree_isValid_iff e.condition).2 sound
  have hunmet : e.condition.evaluate (s.definitionsById e.condition.conditionIds) [] = false := by
    apply Tree.evaluate_eq_false_of_unlogged haccepted
    intro _ _ _ _ _ l hl
    cases hl
  rw [← hlogs] at hunmet
  exact hsufficient (newRequest_insufficient_iff.2 hunmet)

/-- A decision on a pending request leaves it grounded, for it leaves it its logs. -/
theorem Grounded.decided {now : Instant} {operator : String} {wanted : RequestStatus}
    {reason : Option String} {rewards : List Reward} {r : RewardRequest} (h : r.Grounded)
    (pending : r.status = .pending) :
    (Store.decidedRequest now operator wanted reason rewards r).Grounded := by
  intro _
  apply h
  rw [pending]
  decide

end RewardRequest

namespace Store

/-- A step leaves all requests grounded, where the conditions of stored events are sound. -/
theorem requests_grounded_after
    (sound : ∀ id e, s.event? id = some e → e.condition.root.Sound s.definition?)
    (grounded : ∀ r ∈ s.requests, r.Grounded) :
    ∀ r ∈ (step.after settings s).requests, r.Grounded := by
  refine Step.after_induction (P := fun left => ∀ r ∈ left.requests, r.Grounded) grounded ?_
  intro op answer left _ _ heffect
  cases heffect with
  | @request user eventId e found _ _ _ _ =>
    intro r hr
    rcases List.mem_append.1 hr with hstored | hnew
    · exact grounded r hstored
    · rw [List.mem_singleton.1 hnew]
      exact RewardRequest.newRequest_grounded (sound eventId e found)
  | @approve user id r e found pending _ =>
    intro r' hr'
    rcases mem_replaceRequest hr' with rfl | ⟨hstored, _⟩
    · exact (grounded r (of_request? found).1).decided pending
    · exact grounded r' hstored
  | @reject user id reason r found pending =>
    intro r' hr'
    rcases mem_replaceRequest hr' with rfl | ⟨hstored, _⟩
    · exact (grounded r (of_request? found).1).decided pending
    · exact grounded r' hstored
  | _ => exact grounded

theorem requests_grounded (steps : List Step) :
    ∀ r ∈ (Store.empty.run settings steps).requests, r.Grounded := by
  induction steps using List.reverseRecOn with
  | nil =>
    intro r hr
    cases hr
  | append_singleton before step ih =>
    rw [run_snoc]
    refine requests_grounded_after ?_ ih
    intro id e hfound
    exact (events_proper before hfound).present.sound

end Store

/-- A condition that a check accepts is not met by logs of which none has the field of a definition
that a leaf refers to.  So in every state of a run a request that is made without logs is
insufficient, and every request that is pending or approved carries a log. -/
theorem nothing_granted_without_logs (settings : HubSettings) :
    (∀ (t : Tree) (definitions : List Definition) (logs : List Log),
      t.isSound definitions = true →
      (∀ leaf ∈ t.leaves, ∀ d ∈ definitions, d.id = leaf.conditionId →
        ∀ l ∈ logs, l.fieldName ≠ d.fieldName) →
      t.evaluate definitions logs = false) ∧
    (∀ (before : List Step) (step : Step) (user eventId : String) (r : RewardRequest),
      step.op = .request user eventId →
      step.outcome settings (Store.empty.run settings before) = .ok (.request r) →
      r.logs = [] → r.status = .insufficient) ∧
    ∀ (steps : List Step), ∀ r ∈ (Store.empty.run settings steps).requests,
      (r.logs = [] → r.status = .insufficient) ∧
      (r.status = .pending ∨ r.status = .approved → r.logs ≠ []) := by
  refine ⟨?_, ?_, ?_⟩
  · intro t definitions logs sound unlogged
    exact Tree.evaluate_eq_false_of_unlogged sound unlogged
  · intro before step user eventId r asked answered hlogs
    rcases Step.exists_of_request asked answered with ⟨e, hfound, _, hanswer⟩
    cases hanswer
    have hgrounded : ((Store.empty.run settings before).newRequest settings.boundLogs step.now
        step.fresh user e).Grounded :=
      RewardRequest.newRequest_grounded (Store.events_proper before hfound).present.sound
    exact hgrounded.insufficient hlogs
  · intro steps r hr
    have hgrounded := Store.requests_grounded steps r hr
    constructor
    · exact hgrounded.insufficient
    · intro hstatus
      apply hgrounded
      rcases hstatus with h | h <;> simp [h]

namespace Sample

/-- The request that a step answers. -/
def request? : Except Fault Answer → Option RewardRequest
  | .ok (.request r) => some r
  | _ => none

theorem eq_ok_of_request? {outcome : Except Fault Answer} {r : RewardRequest}
    (h : request? outcome = some r) : outcome = .ok (.request r) := by
  unfold request? at h
  split at h
  · rw [Option.some.inj h]
  · cases h

end Sample

/-- Bob has clicked on a banner, which is neither a visit nor a share: his request is insufficient.
Ann's, which is approved in the end, carries her visit. -/
theorem nothing_granted_without_logs_to_bob :
    Sample.condition.evaluate (Store.empty.run Sample.settings Sample.steps).definitions
      ((Store.empty.run Sample.settings Sample.steps).logs.filter (·.userId == "bob")) = false ∧
    (∃ r, Sample.bobsTry.outcome Sample.settings
        (Store.empty.run Sample.settings (Sample.steps.take 7)) = .ok (.request r) ∧
      r.logs = [] ∧ r.status = .insufficient) ∧
    ∃ r ∈ (Store.empty.run Sample.settings Sample.steps).requests,
      r.userId = "ann" ∧ r.status = .approved ∧ r.logs ≠ [] := by
  rcases nothing_granted_without_logs Sample.settings with ⟨hunmet, hmade, hstored⟩
  refine ⟨?_, ?_, ?_⟩
  · apply hunmet
    · decide +kernel
    · decide +kernel
  · have hanswered : (Sample.request? (Sample.bobsTry.outcome Sample.settings
        (Store.empty.run Sample.settings (Sample.steps.take 7)))).map (·.logs.length) = some 0 := by
      decide +kernel
    rcases Option.map_eq_some_iff.1 hanswered with ⟨r, hr, hlength⟩
    have hlogs : r.logs = [] := List.length_eq_zero_iff.1 hlength
    have houtcome := Sample.eq_ok_of_request? hr
    exact ⟨r, houtcome, hlogs, hmade _ _ "bob" "e1" r rfl houtcome hlogs⟩
  · have happroved : ∃ r ∈ (Store.empty.run Sample.settings Sample.steps).requests,
        r.userId = "ann" ∧ r.status = .approved := by
      decide +kernel
    rcases happroved with ⟨r, hr, huser, hstatus⟩
    exact ⟨r, hr, huser, hstatus, (hstored _ r hr).2 (.inr hstatus)⟩

end EventRewards
