import EventRewards.Proofs.Hub.Turns

/-!
# The life of a request

A request is made pending, insufficient or approved.  An operator may approve or reject it while it
is pending, and nothing else ever changes about it: a settled request stays as it is to the last
field.  Its status tells which of the fields of a decision it has, and an approved one has the
rewards that its event had when it was approved, whatever rewards the event was given later.
-/

namespace EventRewards

variable {settings : HubSettings} {step : Step} {s : Store}

namespace RewardRequest

/-- What a request is about, and what it was judged on. -/
structure SameClaim (r r' : RewardRequest) : Prop where
  id : r'.id = r.id
  eventId : r'.eventId = r.eventId
  userId : r'.userId = r.userId
  createdAt : r'.createdAt = r.createdAt
  logs : r'.logs = r.logs

/-- What a step makes of a request that is stored: it leaves it, or an operator decides it. -/
inductive Next (settings : HubSettings) (step : Step) (s : Store) (r : RewardRequest) :
    RewardRequest → Prop where
  | kept : Next settings step s r r
  | approved {operator : String} {r' : RewardRequest} (asked : step.op = .approve operator r.id)
      (answered : step.outcome settings s = .ok (.request r')) (pending : r.status = .pending)
      (status : r'.status = .approved) : Next settings step s r r'
  | rejected {operator : String} {reason : Option String} {r' : RewardRequest}
      (asked : step.op = .reject operator r.id reason)
      (answered : step.outcome settings s = .ok (.request r')) (pending : r.status = .pending)
      (status : r'.status = .rejected) : Next settings step s r r'

/-- Whether a step makes a request, and with a status that a request may begin with. -/
structure MadeBy (settings : HubSettings) (step : Step) (s : Store) (r : RewardRequest) : Prop where
  asked : step.op = .request r.userId r.eventId
  answered : step.outcome settings s = .ok (.request r)
  createdAt : r.createdAt = step.now
  status : r.status = .pending ∨ r.status = .insufficient ∨ r.status = .approved

/-- The fields of a decision that go with a status. -/
def FieldsFit (r : RewardRequest) : Prop :=
  match r.status with
  | .pending | .insufficient =>
    r.reason = none ∧ r.determinedAt = none ∧ r.determinedBy = none ∧ r.receivedRewards = []
  | .rejected => r.determinedAt.isSome ∧ r.determinedBy.isSome ∧ r.receivedRewards = []
  | .approved => r.reason = none

/-- Whether a step of a run approved a request as it stands, with the rewards that its event had just
before: on its creation, or by an operator. -/
def ApprovedIn (settings : HubSettings) (steps : List Step) (r : RewardRequest) : Prop :=
  ∃ before step rest e, steps = before ++ step :: rest ∧
    step.outcome settings (Store.empty.run settings before) = .ok (.request r) ∧
    (Store.empty.run settings before).event? r.eventId = some e ∧ r.receivedRewards = e.rewards ∧
    ((step.op = .request r.userId r.eventId ∧ r.determinedAt = some r.createdAt ∧
        r.determinedBy = none) ∨
      ∃ operator, step.op = .approve operator r.id ∧ r.determinedAt = some step.now ∧
        r.determinedBy = some operator)

/-- A decision leaves the claim as it is. -/
theorem decidedRequest_sameClaim {now : Instant} {operator : String} {wanted : RequestStatus}
    {reason : Option String} {rewards : List Reward} {r : RewardRequest} :
    r.SameClaim (Store.decidedRequest now operator wanted reason rewards r) :=
  ⟨rfl, rfl, rfl, rfl, rfl⟩

/-! ## Over a run -/

/-- What a request may be later on. -/
structure Later (r r' : RewardRequest) : Prop extends SameClaim r r' where
  settled : r.status ≠ .pending → r' = r
  decided : r' = r ∨ r'.status = .approved ∨ r'.status = .rejected

namespace Later

theorem refl (r : RewardRequest) : r.Later r :=
  ⟨⟨rfl, rfl, rfl, rfl, rfl⟩, fun _ => rfl, .inl rfl⟩

theorem trans {r r' r'' : RewardRequest} (h : r.Later r') (h' : r'.Later r'') : r.Later r'' := by
  refine ⟨⟨h'.id.trans h.id, h'.eventId.trans h.eventId, h'.userId.trans h.userId,
    h'.createdAt.trans h.createdAt, h'.logs.trans h.logs⟩, ?_, ?_⟩
  · intro hsettled
    have heq := h.settled hsettled
    subst heq
    exact h'.settled hsettled
  · rcases h.decided with rfl | hdecided
    · exact h'.decided
    · have hsettled : r'.status ≠ .pending := by
        rcases hdecided with hstatus | hstatus <;> simp [hstatus]
      rw [h'.settled hsettled]
      exact .inr hdecided

/-- A request is insufficient from the start or never. -/
theorem insufficient_iff {r r' : RewardRequest} (h : r.Later r') :
    r'.status = .insufficient ↔ r.status = .insufficient := by
  constructor
  · intro hstatus
    rcases h.decided with rfl | hdecided | hdecided
    · exact hstatus
    · simp [hdecided] at hstatus
    · simp [hdecided] at hstatus
  · intro hstatus
    rw [h.settled (by simp [hstatus])]
    exact hstatus

end Later

theorem Turn.later {r : RewardRequest} {after : Option RewardRequest}
    (turn : Turn settings step s (some r) after) : ∃ r', after = some r' ∧ r.Later r' := by
  cases turn with
  | kept => exact ⟨r, rfl, .refl r⟩
  | approved _ _ pending _ =>
    exact ⟨_, rfl, decidedRequest_sameClaim, absurd pending, .inr (.inl rfl)⟩
  | rejected _ _ pending =>
    exact ⟨_, rfl, decidedRequest_sameClaim, absurd pending, .inr (.inr rfl)⟩

/-- A request that is stored stays stored, and only a decision changes it. -/
theorem later_run {id : String} {r : RewardRequest} (found : s.request? id = some r)
    (steps : List Step) : ∃ r', (s.run settings steps).request? id = some r' ∧ r.Later r' := by
  refine Store.run_induction (P := fun s => ∃ r', s.request? id = some r' ∧ r.Later r')
    ⟨r, found, .refl r⟩ ?_
  rintro step _ s ⟨r', hfound, hlater⟩
  have hturn := turn_after settings step s id
  rw [hfound] at hturn
  rcases hturn.later with ⟨r'', hfound', hlater'⟩
  exact ⟨r'', hfound', hlater.trans hlater'⟩

end RewardRequest

/-! ## New requests -/

section NewRequests

variable (bounded : Bool) (now : Instant) (fresh : FreshIds) (user : String) (e : Event)

namespace RewardRequest

theorem newRequest_status : (s.newRequest bounded now fresh user e).status =
    Store.firstStatus (s.eligibility bounded user e).1 e.distribution :=
  rfl

/-- A request begins as insufficient exactly when its user is not eligible. -/
theorem newRequest_insufficient : (s.newRequest bounded now fresh user e).status = .insufficient ↔
    (s.eligibility bounded user e).1 = false := by
  rw [newRequest_status]
  cases (s.eligibility bounded user e).1 with
  | false => simp [Store.firstStatus]
  | true =>
    cases e.distribution with
    | manual => simp [Store.firstStatus]
    | auto => simp [Store.firstStatus]

theorem newRequest_determinedAt : (s.newRequest bounded now fresh user e).determinedAt =
    if (s.newRequest bounded now fresh user e).status = .approved then some now else none :=
  rfl

theorem newRequest_receivedRewards : (s.newRequest bounded now fresh user e).receivedRewards =
    if (s.newRequest bounded now fresh user e).status = .approved then e.rewards else [] :=
  rfl

/-- A request begins pending, insufficient or approved. -/
theorem newRequest_status_cases : (s.newRequest bounded now fresh user e).status = .pending ∨
    (s.newRequest bounded now fresh user e).status = .insufficient ∨
    (s.newRequest bounded now fresh user e).status = .approved := by
  rw [newRequest_status]
  cases (s.eligibility bounded user e).1 with
  | false => exact .inr (.inl rfl)
  | true =>
    cases e.distribution with
    | manual => exact .inl rfl
    | auto => exact .inr (.inr rfl)

theorem newRequest_fieldsFit : (s.newRequest bounded now fresh user e).FieldsFit := by
  have hdeterminedAt := newRequest_determinedAt (s := s) bounded now fresh user e
  have hrewards := newRequest_receivedRewards (s := s) bounded now fresh user e
  rcases newRequest_status_cases (s := s) bounded now fresh user e with h | h | h
  -- pending
  · rw [h] at hdeterminedAt hrewards
    simp only [FieldsFit, h]
    exact ⟨rfl, by simpa using hdeterminedAt, rfl, by simpa using hrewards⟩
  -- insufficient
  · rw [h] at hdeterminedAt hrewards
    simp only [FieldsFit, h]
    exact ⟨rfl, by simpa using hdeterminedAt, rfl, by simpa using hrewards⟩
  -- approved at once
  · simp only [FieldsFit, h]
    rfl

end RewardRequest

end NewRequests

/-! ## Requests of a run -/

section Run

variable {steps before rest : List Step}

theorem DistinctDraws.request?_of_mem (distinct : DistinctDraws settings steps) {r : RewardRequest}
    (hr : r ∈ (Store.empty.run settings steps).requests) :
    (Store.empty.run settings steps).request? r.id = some r :=
  Keyed.find?_of_mem distinct.requests_distinct hr

/-- Over any stretch of a run a request stays stored, about the same claim. -/
theorem DistinctDraws.exists_later (distinct : DistinctDraws settings (before ++ rest))
    {r : RewardRequest} (hr : r ∈ (Store.empty.run settings before).requests) :
    ∃ r' ∈ (Store.empty.run settings (before ++ rest)).requests, r.Later r' := by
  rcases RewardRequest.later_run (distinct.of_append.request?_of_mem hr) rest with
    ⟨r', hfound, hlater⟩
  rw [← Store.run_append] at hfound
  exact ⟨r', (Store.of_request? hfound).1, hlater⟩

namespace RewardRequest

theorem ApprovedIn.append {r : RewardRequest} (h : r.ApprovedIn settings before)
    (rest : List Step) : r.ApprovedIn settings (before ++ rest) := by
  rcases h with ⟨earlier, step, later, e, rfl, hfacts⟩
  exact ⟨earlier, step, later ++ rest, e, by simp, hfacts⟩

/-- A stored request is still stored after a step, about the same claim. -/
theorem Turn.next {r : RewardRequest} {after : Option RewardRequest}
    (turn : Turn settings step s (some r) after) :
    ∃ r', after = some r' ∧ r.SameClaim r' ∧ Next settings step s r r' := by
  cases turn with
  | kept => exact ⟨r, rfl, ⟨rfl, rfl, rfl, rfl, rfl⟩, .kept⟩
  | approved asked answered pending _ =>
    exact ⟨_, rfl, decidedRequest_sameClaim, .approved asked answered pending rfl⟩
  | rejected asked answered pending =>
    exact ⟨_, rfl, decidedRequest_sameClaim, .rejected asked answered pending rfl⟩

theorem Turn.madeBy {r : RewardRequest} (turn : Turn settings step s none (some r)) :
    r.MadeBy settings step s := by
  cases turn with
  | made asked answered =>
    exact ⟨asked, answered, rfl, newRequest_status_cases _ _ _ _ _⟩

/-- A step leaves each request with the fields that go with its status, and an approved one with the
step that approved it. -/
theorem Turn.fieldsFit {earlier : Option RewardRequest} {r : RewardRequest}
    (turn : Turn settings step (Store.empty.run settings before) earlier (some r))
    (fit : ∀ r', earlier = some r' → r'.FieldsFit ∧
      (r'.status = .approved → r'.ApprovedIn settings before)) :
    r.FieldsFit ∧ (r.status = .approved → r.ApprovedIn settings (before ++ [step])) := by
  cases turn with
  | @made user e asked answered found _ _ _ _ =>
    refine ⟨newRequest_fieldsFit _ _ _ _ _, ?_⟩
    intro hstatus
    -- approved at once: this very step approved it
    have hdeterminedAt := newRequest_determinedAt (s := Store.empty.run settings before)
      settings.boundLogs step.now step.fresh user e
    have hrewards := newRequest_receivedRewards (s := Store.empty.run settings before)
      settings.boundLogs step.now step.fresh user e
    rw [if_pos hstatus] at hdeterminedAt hrewards
    exact ⟨before, step, [], e, rfl, answered, found, hrewards,
      .inl ⟨asked, hdeterminedAt, rfl⟩⟩
  | kept =>
    have hr := fit r rfl
    exact ⟨hr.1, fun hstatus => (hr.2 hstatus).append [step]⟩
  | @approved operator r' e asked answered _ event =>
    refine ⟨rfl, ?_⟩
    intro _
    exact ⟨before, step, [], e, rfl, answered, event, rfl, .inr ⟨operator, asked, rfl, rfl⟩⟩
  | rejected _ _ _ =>
    refine ⟨⟨rfl, rfl, rfl⟩, ?_⟩
    intro hstatus
    cases hstatus

/-- Every request of a run was made by a step of it, and is what became of it. -/
theorem exists_made {id : String} {r : RewardRequest}
    (found : (Store.empty.run settings steps).request? id = some r) :
    ∃ before step rest first, steps = before ++ step :: rest ∧
      Turn settings step (Store.empty.run settings before) none (some first) ∧ first.Later r := by
  induction steps using List.reverseRecOn generalizing r with
  | nil => cases found
  | append_singleton steps step ih =>
    have hturn := turn_after settings step (Store.empty.run settings steps) id
    rw [← Store.run_snoc, found] at hturn
    cases hearlier : (Store.empty.run settings steps).request? id with
    | none =>
      rw [hearlier] at hturn
      exact ⟨steps, step, [], r, rfl, hturn, .refl r⟩
    | some r' =>
      rw [hearlier] at hturn
      -- made earlier, and no more than decided by this step
      rcases hturn.later with ⟨_, heq, hlater⟩
      cases heq
      rcases ih hearlier with ⟨before, made, rest, first, rfl, hmade, hfirst⟩
      exact ⟨before, made, rest ++ [step], first, by simp, hmade, hfirst.trans hlater⟩

end RewardRequest

theorem DistinctDraws.requests_fieldsFit (distinct : DistinctDraws settings steps) :
    ∀ r ∈ (Store.empty.run settings steps).requests, r.FieldsFit ∧
      (r.status = .approved → r.ApprovedIn settings steps) := by
  refine distinct.induction (P := fun steps s => ∀ r ∈ s.requests, r.FieldsFit ∧
    (r.status = .approved → r.ApprovedIn settings steps)) ?_ ?_
  · intro r hr
    cases hr
  · intro before step hbefore hafter ih r hr
    rw [← Store.run_snoc] at hr
    have hturn := RewardRequest.turn_after settings step (Store.empty.run settings before) r.id
    rw [← Store.run_snoc, hafter.request?_of_mem hr] at hturn
    refine hturn.fieldsFit ?_
    intro r' hr'
    exact ih r' (Store.of_request? hr').1

/-- A step of a run leaves every request about its claim, as it is or decided. -/
theorem DistinctDraws.exists_next (distinct : DistinctDraws settings (before ++ [step]))
    {r : RewardRequest} (hr : r ∈ (Store.empty.run settings before).requests) :
    ∃ r' ∈ (Store.empty.run settings (before ++ [step])).requests, r.SameClaim r' ∧
      r.Next settings step (Store.empty.run settings before) r' := by
  have hturn := RewardRequest.turn_after settings step (Store.empty.run settings before) r.id
  rw [distinct.of_append.request?_of_mem hr, ← Store.run_snoc] at hturn
  rcases hturn.next with ⟨r', hfound, hclaim, hnext⟩
  exact ⟨r', (Store.of_request? hfound).1, hclaim, hnext⟩

/-- A request that is stored after a step was stored before, or the step made it. -/
theorem DistinctDraws.stored_or_made (distinct : DistinctDraws settings (before ++ [step]))
    {r : RewardRequest} (hr : r ∈ (Store.empty.run settings (before ++ [step])).requests) :
    (∃ earlier ∈ (Store.empty.run settings before).requests, earlier.id = r.id) ∨
      r.MadeBy settings step (Store.empty.run settings before) := by
  have hturn := RewardRequest.turn_after settings step (Store.empty.run settings before) r.id
  rw [← Store.run_snoc, distinct.request?_of_mem hr] at hturn
  cases hfound : (Store.empty.run settings before).request? r.id with
  | none =>
    rw [hfound] at hturn
    exact .inr hturn.madeBy
  | some earlier =>
    have hearlier := Store.of_request? hfound
    exact .inl ⟨earlier, hearlier.1, hearlier.2⟩

/-- The life of the requests of a run, whatever its clock does.  Each step leaves every request about
its claim and as it stands, unless it is a successful decision on a pending one; requests appear
through successful requests only.  Over any stretch of the run a request keeps its claim, and one
that is not pending keeps every field.  At any time its fields fit its status, and an approved one
has the rewards that its event had when the request was approved. -/
theorem request_life (distinct : DistinctDraws settings steps) :
    (∀ before step rest, steps = before ++ step :: rest →
      (∀ r ∈ (Store.empty.run settings before).requests,
        ∃ r' ∈ (Store.empty.run settings (before ++ [step])).requests, r.SameClaim r' ∧
          r.Next settings step (Store.empty.run settings before) r') ∧
      ∀ r' ∈ (Store.empty.run settings (before ++ [step])).requests,
        (∃ r ∈ (Store.empty.run settings before).requests, r.id = r'.id) ∨
          r'.MadeBy settings step (Store.empty.run settings before)) ∧
    (∀ before rest, steps = before ++ rest →
      ∀ r ∈ (Store.empty.run settings before).requests,
        ∃ r' ∈ (Store.empty.run settings steps).requests, r.SameClaim r' ∧
          (r.status ≠ .pending → r' = r)) ∧
    ∀ r ∈ (Store.empty.run settings steps).requests, r.FieldsFit ∧
      (r.status = .approved → r.ApprovedIn settings steps) := by
  refine ⟨?_, ?_, distinct.requests_fieldsFit⟩
  · rintro before step rest rfl
    -- ids are distinct up to this step
    have hafter : DistinctDraws settings (before ++ [step]) := by
      have hdistinct := distinct
      rw [List.append_cons] at hdistinct
      exact hdistinct.of_append
    constructor
    · intro r hr
      exact hafter.exists_next hr
    · intro r' hr'
      exact hafter.stored_or_made hr'
  · rintro before rest rfl r hr
    rcases distinct.exists_later hr with ⟨r', hr', hlater⟩
    exact ⟨r', hr', hlater.toSameClaim, hlater.settled⟩

/-- Ann gets the cap that was set between her request and its approval. -/
theorem request_life_of_ann :
    ∃ r ∈ (Store.empty.run Sample.settings Sample.steps).requests, r.status = .approved ∧
      r.receivedRewards.map (·.name) = ["cap"] ∧ r.reason = none ∧
      r.ApprovedIn Sample.settings Sample.steps := by
  have hstored : ∃ r ∈ (Store.empty.run Sample.settings Sample.steps).requests,
      r.status = .approved ∧ r.receivedRewards.map (·.name) = ["cap"] := by
    decide +kernel
  rcases hstored with ⟨r, hr, hstatus, hrewards⟩
  have hlife := (request_life Sample.steps_distinct).2.2 r hr
  have hreason : r.reason = none := by
    have hfit := hlife.1
    rw [RewardRequest.FieldsFit, hstatus] at hfit
    exact hfit
  exact ⟨r, hr, hstatus, hrewards, hreason, hlife.2 hstatus⟩

end Run
end EventRewards
