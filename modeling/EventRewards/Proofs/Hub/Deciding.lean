import EventRewards.Proofs.Hub.Origins
import EventRewards.Proofs.Hub.Requesting

/-!
# Deciding requests

An operator approves or rejects a request while it is pending, whatever has become of its event by
then.  Both are refused for the same two reasons.  To approve, the event is looked up before the status
is, but the event of a stored request is always there.  A rejection lets the user ask again, and an
approval keeps the user from it for good.
-/

namespace EventRewards

/-- Whether an operation decides the request with an id, and the status that it wants for it. -/
inductive Operation.Decides (id : String) : RequestStatus → Operation → Prop where
  | approve (operator : String) : Decides id .approved (.approve operator id)
  | reject (operator : String) (reason : Option String) :
      Decides id .rejected (.reject operator id reason)

namespace Store

variable {s : Store}

/-- Why a decision is refused: there is no such request, or it is no longer pending. -/
inductive RefusesDecision (s : Store) (id : String) (wanted : RequestStatus) : Fault → Prop where
  | unknown (absent : s.request? id = none) :
      RefusesDecision s id wanted (.notFound .rewardRequest id)
  | settled {r : RewardRequest} (found : s.request? id = some r) (settled : r.status ≠ .pending) :
      RefusesDecision s id wanted (.notPending r.status wanted)

/-! ## Refusals -/

section Refusals

variable {now : Instant} {operator id : String} {fault : Fault}

theorem findRequest_eq_error :
    s.findRequest id = .error fault ↔ s.request? id = none ∧ fault = .notFound .rewardRequest id := by
  rw [findRequest]
  cases s.request? id with
  | none => simp [eq_comm]
  | some r => simp

theorem decide_eq_error {wanted : RequestStatus} {reason : Option String} {rewards : List Reward} :
    s.decide now operator wanted reason rewards id = .error fault ↔
      s.RefusesDecision id wanted fault := by
  -- the last check: a pending request is decided without fail
  have hpending (r : RewardRequest) :
      (if r.status = .pending then
        (pure (decidedRequest now operator wanted reason rewards r,
          s.replaceRequest (decidedRequest now operator wanted reason rewards r)) :
            Except Fault (RewardRequest × Store))
        else .error (.notPending r.status wanted)) = .error fault ↔
      r.status ≠ .pending ∧ fault = .notPending r.status wanted := by
    by_cases h : r.status = .pending
    · simp [h, pure, Except.pure]
    · simp [h, eq_comm]
  simp only [decide, bind_eq_error, findRequest_eq_error, findRequest_eq_ok, hpending]
  constructor
  · rintro (⟨habsent, rfl⟩ | ⟨r, hfound, hsettled, rfl⟩)
    · exact .unknown habsent
    · exact .settled hfound hsettled
  · intro h
    cases h with
    | unknown absent => exact .inl ⟨absent, rfl⟩
    | settled found settled => exact .inr ⟨_, found, settled, rfl⟩

/-- The look at the event adds no reason where the event of the request is stored. -/
theorem approve_eq_error
    (stored : ∀ r, s.request? id = some r → ∃ e, s.event? r.eventId = some e) :
    s.approve now operator id = .error fault ↔ s.RefusesDecision id .approved fault := by
  simp only [approve, bind_eq_error, findRequest_eq_error, findRequest_eq_ok, findEvent_eq_error,
    findEvent_eq_ok, decide_eq_error]
  constructor
  · rintro (⟨habsent, rfl⟩ | ⟨r, hfound, ⟨habsent, rfl⟩ | ⟨_, _, hrefused⟩⟩)
    · exact .unknown habsent
    · rcases stored r hfound with ⟨e, hevent⟩
      rw [habsent] at hevent
      cases hevent
    · exact hrefused
  · intro h
    cases hfound : s.request? id with
    | none =>
      cases h with
      | unknown _ => exact .inl ⟨rfl, rfl⟩
      | settled found _ =>
        rw [hfound] at found
        cases found
    | some r =>
      rcases stored r hfound with ⟨e, hevent⟩
      exact .inr ⟨r, rfl, .inr ⟨e, hevent, h⟩⟩

end Refusals

/-! ## Asking again -/

/-- Where the only open request of a user for an event is rejected, none is left. -/
theorem not_claimed_of_rejected {r rejected : RewardRequest} (claim : r.SameClaim rejected)
    (status : rejected.status = .rejected)
    (alone : ∀ q ∈ s.openRequests r.userId r.eventId, q = r) :
    ¬(s.replaceRequest rejected).Claimed r.userId r.eventId := by
  rintro ⟨q, hq, hevent, huser, hopen⟩
  rcases mem_replaceRequest hq with rfl | ⟨hq, hother⟩
  · simp [status] at hopen
  · -- any other open request would have been a second one before
    have hq' : q ∈ s.openRequests r.userId r.eventId :=
      mem_openRequests.2 ⟨hq, hevent, huser, isOpen_iff.2 hopen⟩
    rw [alone q hq', claim.id] at hother
    exact hother rfl

/-- Whoever is approved has claimed the event for good. -/
theorem claimed_run (settings : HubSettings) {id : String} {r : RewardRequest}
    (found : s.request? id = some r) (approved : r.status = .approved) (steps : List Step) :
    (s.run settings steps).Claimed r.userId r.eventId := by
  rcases RewardRequest.later_run found steps with ⟨r', hfound, hlater⟩
  have hsame : r' = r := hlater.settled (by simp [approved])
  subst hsame
  exact ⟨r', (of_request? hfound).1, rfl, rfl, .inr approved⟩

end Store

namespace Step

variable {settings : HubSettings} {step : Step} {s : Store} {user eventId : String}

theorem request_refused_iff (asked : step.op = .request user eventId) {fault : Fault} :
    step.outcome settings s = .error fault ↔ s.Refuses step.now user eventId fault := by
  rw [outcome_eq_error, asked, Operation.apply, Operation.changing_eq_error, Store.request_eq_error]

/-- Only a user who has a pending or approved request for an event is refused for it. -/
theorem claimed_of_refused (asked : step.op = .request user eventId) {eventId' user' : String}
    (refused : step.outcome settings s = .error (.alreadyRequested eventId' user')) :
    s.Claimed user eventId := by
  cases (request_refused_iff asked).1 refused with
  | claimed _ _ _ _ claimed => exact claimed

/-- A user who has a pending or approved request for an event gets no other one. -/
theorem request_fails_of_claimed (asked : step.op = .request user eventId)
    (claimed : s.Claimed user eventId) : ∃ fault, step.outcome settings s = .error fault := by
  cases houtcome : step.outcome settings s with
  | error fault => exact ⟨fault, rfl⟩
  | ok answer =>
    have heffect := effect_of_ok houtcome
    rw [asked] at heffect
    generalize step.after settings s = left at heffect
    cases heffect with
    | look looks _ => cases looks
    | request found _ _ _ alone =>
      have hid := (Store.of_event? found).2
      subst hid
      rw [Store.hasOpenRequest_iff.2 claimed] at alone
      cases alone

end Step

/-! ## Decisions in a run -/

section Runs

variable {settings : HubSettings} {steps : List Step} {step : Step} {id : String}
  {wanted : RequestStatus}

namespace Operation.Decides

/-- What a decision that succeeds answers and leaves. -/
theorem of_outcome {s : Store} (decides : step.op.Decides id wanted) {answer : Answer}
    (answered : step.outcome settings s = .ok answer) :
    ∃ r decided, s.request? id = some r ∧ r.status = .pending ∧ answer = .request decided ∧
      r.SameClaim decided ∧ decided.status = wanted ∧
      step.after settings s = s.replaceRequest decided := by
  have heffect := Step.effect_of_ok answered
  generalize step.op = op at decides heffect
  generalize step.after settings s = left at heffect ⊢
  cases decides with
  | approve operator =>
    cases heffect with
    | look looks _ => cases looks
    | approve found pending _ =>
      exact ⟨_, _, found, pending, rfl, RewardRequest.decidedRequest_sameClaim, rfl, rfl⟩
  | reject operator reason =>
    cases heffect with
    | look looks _ => cases looks
    | reject found pending =>
      exact ⟨_, _, found, pending, rfl, RewardRequest.decidedRequest_sameClaim, rfl, rfl⟩

/-- Whatever is decided, the reasons against it are the same. -/
theorem outcome_eq_error (decides : step.op.Decides id wanted) {fault : Fault} :
    step.outcome settings (Store.empty.run settings steps) = .error fault ↔
      (Store.empty.run settings steps).RefusesDecision id wanted fault := by
  rw [Step.outcome_eq_error]
  generalize step.op = op at decides
  cases decides with
  | approve operator =>
    rw [Operation.apply, Operation.changing_eq_error]
    exact Store.approve_eq_error fun r found => RewardRequest.exists_event found
  | reject operator reason =>
    rw [Operation.apply, Operation.changing_eq_error]
    exact Store.decide_eq_error

theorem succeeds_iff (decides : step.op.Decides id wanted) :
    (∃ answer, step.outcome settings (Store.empty.run settings steps) = .ok answer) ↔
      ∃ r, (Store.empty.run settings steps).request? id = some r ∧ r.status = .pending := by
  constructor
  · rintro ⟨answer, hanswer⟩
    rcases decides.of_outcome hanswer with ⟨r, _, hfound, hpending, _⟩
    exact ⟨r, hfound, hpending⟩
  · rintro ⟨r, hfound, hpending⟩
    cases houtcome : step.outcome settings (Store.empty.run settings steps) with
    | ok answer => exact ⟨answer, rfl⟩
    | error fault =>
      -- neither reason applies to a pending request
      cases decides.outcome_eq_error.1 houtcome with
      | unknown absent =>
        rw [hfound] at absent
        cases absent
      | settled found settled =>
        rw [hfound, Option.some.injEq] at found
        exact absurd (found ▸ hpending) settled

end Operation.Decides

/-- Rejecting a pending request leaves its user without an open one for the event. -/
theorem DistinctDraws.not_claimed_of_rejected (distinct : DistinctDraws settings steps)
    {r rejected : RewardRequest} (found : (Store.empty.run settings steps).request? id = some r)
    (pending : r.status = .pending) (claim : r.SameClaim rejected)
    (status : rejected.status = .rejected) :
    ¬((Store.empty.run settings steps).replaceRequest rejected).Claimed r.userId r.eventId := by
  have hopen : r ∈ (Store.empty.run settings steps).openRequests r.userId r.eventId :=
    Store.mem_openRequests.2
      ⟨(Store.of_request? found).1, rfl, rfl, Store.isOpen_iff.2 (.inl pending)⟩
  refine Store.not_claimed_of_rejected claim status ?_
  intro q hq
  exact distinct.openRequests_unique hq hopen

/-- What becomes of a decision on a request, in whatever state a run has led to.  It succeeds exactly
when its id names a pending request, and fails otherwise because no request has the id or because of
the status that the request has by then; the event is no reason for it to fail.  After a rejection the
user is not refused for having an open request.  After an approval every later request of the user for
the event fails, whatever else the run does. -/
theorem decision_outcome (distinct : DistinctDraws settings steps)
    (decides : step.op.Decides id wanted) :
    let s := Store.empty.run settings steps
    ((∃ answer, step.outcome settings s = .ok answer) ↔
      ∃ r, s.request? id = some r ∧ r.status = .pending) ∧
    (∀ fault, step.outcome settings s = .error fault ↔ s.RefusesDecision id wanted fault) ∧
    (∀ eventId, step.outcome settings s ≠ .error (.notFound .event eventId)) ∧
    ∀ answer, step.outcome settings s = .ok answer →
      ∃ r decided, s.request? id = some r ∧ answer = .request decided ∧ r.SameClaim decided ∧
        decided.status = wanted ∧
        (wanted = .rejected → ∀ again : Step, again.op = .request r.userId r.eventId →
          ∀ eventId user, again.outcome settings (step.after settings s) ≠
            .error (.alreadyRequested eventId user)) ∧
        (wanted = .approved → ∀ rest (again : Step), again.op = .request r.userId r.eventId →
          ∃ fault, again.outcome settings (Store.empty.run settings (steps ++ step :: rest)) =
            .error fault) := by
  intro s
  refine ⟨decides.succeeds_iff, fun fault => decides.outcome_eq_error, ?_, ?_⟩
  · intro eventId houtcome
    cases decides.outcome_eq_error.1 houtcome
  · intro answer hanswer
    rcases decides.of_outcome hanswer with
      ⟨r, decided, hfound, hpending, hrequest, hclaim, hstatus, hafter⟩
    refine ⟨r, decided, hfound, hrequest, hclaim, hstatus, ?_, ?_⟩
    · rintro rfl again hagain eventId user hrefused
      rw [hafter] at hrefused
      exact distinct.not_claimed_of_rejected hfound hpending hclaim hstatus
        (Step.claimed_of_refused hagain hrefused)
    · rintro rfl rest again hagain
      have hdecided : (step.after settings s).request? id = some decided := by
        have hid : decided.id = id := hclaim.id.trans (Store.of_request? hfound).2
        rw [hafter, Store.request?_replaceRequest, if_pos hid, hfound]
        rfl
      have hclaimed := Store.claimed_run settings hdecided hstatus rest
      rw [hclaim.userId, hclaim.eventId, ← Store.run_cons, ← Store.run_append] at hclaimed
      exact Step.request_fails_of_claimed hagain hclaimed

/-- Ann's request is pending until it is approved, and then she can not ask for the event again, not
even after new rewards were set. -/
theorem decision_outcome_of_ann :
    ∃ answer fault,
      (Sample.step 50 "n1" (.approve "ops" "r1")).outcome Sample.settings
        (Store.empty.run Sample.settings (Sample.steps.take 9)) = .ok answer ∧
      (Sample.step 60 "r4" (.request "ann" "e1")).outcome Sample.settings
        (Store.empty.run Sample.settings (Sample.steps.take 9 ++
          Sample.step 50 "n1" (.approve "ops" "r1") ::
          [Sample.step 55 "w2" (.setRewards "ops" "e1" [])])) = .error fault := by
  have hdistinct : DistinctDraws Sample.settings (Sample.steps.take 9) := by
    rw [DistinctDraws]
    decide +kernel
  have hdecides : (Sample.step 50 "n1" (.approve "ops" "r1")).op.Decides "r1" .approved :=
    .approve "ops"
  have houtcome := decision_outcome hdistinct hdecides
  have hpending : ∃ r, (Store.empty.run Sample.settings (Sample.steps.take 9)).request? "r1" =
      some r ∧ r.status = .pending ∧ r.userId = "ann" ∧ r.eventId = "e1" :=
    ⟨_, rfl, by decide +kernel, rfl, rfl⟩
  rcases hpending with ⟨r, hfound, hstatus, huser, hevent⟩
  rcases houtcome.1.2 ⟨r, hfound, hstatus⟩ with ⟨answer, hanswer⟩
  rcases houtcome.2.2.2 answer hanswer with ⟨r', decided, hfound', _, _, _, _, hlater⟩
  have hsame : r' = r := Option.some.inj (hfound'.symm.trans hfound)
  subst hsame
  have hagain : (Sample.step 60 "r4" (.request "ann" "e1")).op =
      .request r'.userId r'.eventId := by
    rw [huser, hevent]
    rfl
  rcases hlater rfl [Sample.step 55 "w2" (.setRewards "ops" "e1" [])] _ hagain with
    ⟨fault, hfault⟩
  exact ⟨answer, fault, hanswer, hfault⟩

end Runs
end EventRewards
