import EventRewards.Proofs.Hub.OpenRequests

/-!
# Asking for rewards

A request is refused for one of five reasons, the first that applies.  Otherwise it is stored as what
the verdict on its user and the distribution of its event make of it.
-/

namespace EventRewards

/-- Whether a request is as it is made at a time: of an event, and of the verdict on its user. -/
structure RewardRequest.FitsVerdict (r : RewardRequest) (verdict : Bool) (e : Event) (now : Instant) :
    Prop where
  insufficient : r.status = .insufficient ↔ verdict = false
  pending : r.status = .pending ↔ verdict = true ∧ e.distribution = .manual
  approved : r.status = .approved ↔ verdict = true ∧ e.distribution = .auto
  determinedAt : r.determinedAt = if r.status = .approved then some now else none
  rewards : r.receivedRewards = if r.status = .approved then e.rewards else []

namespace Store

variable {s : Store} {now : Instant} {user eventId : String}

/-- Whether a user has a request for an event that is pending or approved. -/
def Claimed (s : Store) (user eventId : String) : Prop :=
  ∃ r ∈ s.requests, r.eventId = eventId ∧ r.userId = user ∧
    (r.status = .pending ∨ r.status = .approved)

/-- Why a request is refused.  Each reason takes it that the ones before it do not apply. -/
inductive Refuses (s : Store) (now : Instant) (user eventId : String) : Fault → Prop where
  | unknown (absent : s.event? eventId = none) : Refuses s now user eventId (.notFound .event eventId)
  | inactive {e : Event} (found : s.event? eventId = some e) (inactive : e.status = .inactive) :
      Refuses s now user eventId .eventInactive
  | early {e : Event} (found : s.event? eventId = some e) (active : e.status = .active)
      (early : now < e.startedAt) : Refuses s now user eventId .eventNotStarted
  | late {e : Event} (found : s.event? eventId = some e) (active : e.status = .active)
      (started : e.startedAt ≤ now) (late : e.endedAt < now) : Refuses s now user eventId .eventEnded
  | claimed {e : Event} (found : s.event? eventId = some e) (active : e.status = .active)
      (started : e.startedAt ≤ now) (unended : now ≤ e.endedAt) (claimed : s.Claimed user eventId) :
      Refuses s now user eventId (.alreadyRequested eventId user)

/-- Whether a store is another with one more request, which bears an id that is new there. -/
structure Gains (s left : Store) (r : RewardRequest) : Prop where
  store : left = { s with requests := s.requests ++ [r] }
  unused : s.request? r.id = none
  found : left.request? r.id = some r
  others : ∀ id, id ≠ r.id → left.request? id = s.request? id

theorem gains_append {r : RewardRequest} (unused : s.request? r.id = none) :
    s.Gains { s with requests := s.requests ++ [r] } r where
  store := rfl
  unused := unused
  found := by rw [request?_append, unused, if_pos rfl, Option.none_or]
  others := by
    intro id hother
    rw [request?_append, if_neg (Ne.symm hother), Option.or_none]

/-! ## Refusals -/

theorem isOpen_iff {status : RequestStatus} :
    status.isOpen = true ↔ status = .pending ∨ status = .approved := by
  cases status with
  | _ => simp [RequestStatus.isOpen]

theorem hasOpenRequest_iff : s.hasOpenRequest user eventId = true ↔ s.Claimed user eventId := by
  simp [hasOpenRequest, Claimed, isOpen_iff, and_assoc]

theorem findEvent_eq_error {id : String} {fault : Fault} :
    s.findEvent id = .error fault ↔ s.event? id = none ∧ fault = .notFound .event id := by
  rw [findEvent]
  cases s.event? id with
  | none => simp [eq_comm]
  | some e => simp

theorem phase_eq_ended {e : Event} : e.phase now = .ended ↔ e.startedAt ≤ now ∧ e.endedAt < now := by
  rw [EventVersion.phase, ← not_lt]
  by_cases hstart : now < e.startedAt
  · simp [hstart]
  · by_cases hend : e.endedAt < now
    · simp [hstart, hend]
    · simp [hstart, hend]

theorem checkRunning_eq_error {e : Event} {fault : Fault} :
    checkRunning now e = .error fault ↔
      (e.status = .inactive ∧ fault = .eventInactive) ∨
      (e.status = .active ∧ now < e.startedAt ∧ fault = .eventNotStarted) ∨
      e.status = .active ∧ (e.startedAt ≤ now ∧ e.endedAt < now) ∧ fault = .eventEnded := by
  rw [← phase_eq_upcoming, ← phase_eq_ended, checkRunning]
  cases e.status with
  | inactive => simp [eq_comm]
  | active =>
    cases e.phase now with
    | _ => simp [eq_comm]

theorem request_eq_error {bounded : Bool} {fresh : FreshIds} {fault : Fault} :
    s.request bounded now fresh user eventId = .error fault ↔
      s.Refuses now user eventId fault := by
  -- the last check: nothing is left to go wrong after it
  have hopen (e : Event) : (if s.hasOpenRequest user e.id then .error (.alreadyRequested e.id user)
      else (pure (s.newRequest bounded now fresh user e,
        { s with requests := s.requests ++ [s.newRequest bounded now fresh user e] }) :
          Except Fault (RewardRequest × Store))) = .error fault ↔
      s.Claimed user e.id ∧ fault = .alreadyRequested e.id user := by
    rw [← hasOpenRequest_iff]
    by_cases h : s.hasOpenRequest user e.id = true
    · simp [h, eq_comm]
    · simp [h, pure, Except.pure]
  simp only [request, bind_eq_error, findEvent_eq_error, findEvent_eq_ok, checkRunning_eq_error,
    checkRunning_eq_ok, hopen]
  constructor
  · rintro (⟨habsent, rfl⟩ | ⟨e, hfound, (⟨hinactive, rfl⟩ | ⟨hactive, hearly, rfl⟩ |
      ⟨hactive, ⟨hstarted, hlate⟩, rfl⟩) | ⟨_, ⟨hactive, hstarted, hunended⟩, hclaimed, rfl⟩⟩)
    · exact .unknown habsent
    · exact .inactive hfound hinactive
    · exact .early hfound hactive hearly
    · exact .late hfound hactive hstarted hlate
    · have hid := (of_event? hfound).2
      subst hid
      exact .claimed hfound hactive hstarted hunended hclaimed
  · intro h
    cases h with
    | unknown absent => exact .inl ⟨absent, rfl⟩
    | inactive found inactive => exact .inr ⟨_, found, .inl (.inl ⟨inactive, rfl⟩)⟩
    | early found active early => exact .inr ⟨_, found, .inl (.inr (.inl ⟨active, early, rfl⟩))⟩
    | late found active started late =>
      exact .inr ⟨_, found, .inl (.inr (.inr ⟨active, ⟨started, late⟩, rfl⟩))⟩
    | claimed found active started unended claimed =>
      have hid := (of_event? found).2
      subst hid
      exact .inr ⟨_, found, .inr ⟨(), ⟨active, started, unended⟩, claimed, rfl⟩⟩

/-! ## Requests that are made -/

theorem request_succeeds_iff {bounded : Bool} {fresh : FreshIds} :
    (∃ r left, s.request bounded now fresh user eventId = .ok (r, left)) ↔
      ∃ e, s.event? eventId = some e ∧ e.status = .active ∧ e.startedAt ≤ now ∧ now ≤ e.endedAt ∧
        ¬s.Claimed user eventId := by
  simp only [request_eq_ok, ← Bool.not_eq_true, hasOpenRequest_iff]
  constructor
  · rintro ⟨_, _, e, ⟨hfound, hactive, hstarted, hunended, hunclaimed⟩, _, _⟩
    rw [(of_event? hfound).2] at hunclaimed
    exact ⟨e, hfound, hactive, hstarted, hunended, hunclaimed⟩
  · rintro ⟨e, hfound, hactive, hstarted, hunended, hunclaimed⟩
    rw [← (of_event? hfound).2] at hunclaimed
    exact ⟨_, _, e, ⟨hfound, hactive, hstarted, hunended, hunclaimed⟩, rfl, rfl⟩

theorem newRequest_fitsVerdict (bounded : Bool) (now : Instant) (fresh : FreshIds) (user : String)
    (e : Event) : (s.newRequest bounded now fresh user e).FitsVerdict
      (s.eligibility bounded user e).1 e now := by
  have hstatus := RewardRequest.newRequest_status (s := s) bounded now fresh user e
  refine ⟨RewardRequest.newRequest_insufficient bounded now fresh user e, ?_, ?_,
    RewardRequest.newRequest_determinedAt bounded now fresh user e,
    RewardRequest.newRequest_receivedRewards bounded now fresh user e⟩
  · rw [hstatus]
    cases (s.eligibility bounded user e).1 <;> cases e.distribution <;> simp [firstStatus]
  · rw [hstatus]
    cases (s.eligibility bounded user e).1 <;> cases e.distribution <;> simp [firstStatus]

end Store

/-- What becomes of asking for rewards, in any store and at any time.  It succeeds if and only if the
event is stored, active and running, and the user has no pending or approved request for it; else it
fails for the first of the reasons to.  Where it succeeds and the id drawn is not in use, the store
gains the request that is answered and nothing else: it is insufficient where the verdict is that the
user does not meet the condition, and else pending or approved, as the event's rewards are given out.
Only an approved one has rewards, and a time at which it was determined. -/
theorem request_outcome (bounded : Bool) (now : Instant) (fresh : FreshIds) (user eventId : String)
    (s : Store) :
    ((∃ r left, s.request bounded now fresh user eventId = .ok (r, left)) ↔
      ∃ e, s.event? eventId = some e ∧ e.status = .active ∧ e.startedAt ≤ now ∧ now ≤ e.endedAt ∧
        ¬s.Claimed user eventId) ∧
    (∀ fault, s.request bounded now fresh user eventId = .error fault ↔
      s.Refuses now user eventId fault) ∧
    ∀ r left, s.request bounded now fresh user eventId = .ok (r, left) →
      s.request? (fresh 1) = none →
        s.Gains left r ∧ r.id = fresh 1 ∧ r.userId = user ∧ r.eventId = eventId ∧
          ∃ e, s.event? eventId = some e ∧
            r.FitsVerdict (s.eligibility bounded user e).1 e now := by
  refine ⟨Store.request_succeeds_iff, fun fault => Store.request_eq_error, ?_⟩
  intro r left hmade hunused
  rcases Store.request_eq_ok.1 hmade with ⟨e, ⟨hfound, _⟩, rfl, rfl⟩
  exact ⟨Store.gains_append hunused, rfl, rfl, (Store.of_event? hfound).2, e, hfound,
    Store.newRequest_fitsVerdict bounded now fresh user e⟩

/-- Ann, who visited, asks while the event runs: she gets a request that waits for an operator. -/
theorem request_outcome_of_ann :
    ∃ r left, (Store.empty.run Sample.settings (Sample.steps.take 5)).request true
        (Sample.second 30) (fun _ => "r1") "ann" "e1" = .ok (r, left) ∧
      (Store.empty.run Sample.settings (Sample.steps.take 5)).Gains left r ∧ r.status = .pending := by
  have hevent : ∃ e, (Store.empty.run Sample.settings (Sample.steps.take 5)).event? "e1" = some e ∧
      e.status = .active ∧ e.startedAt = Sample.second 10 ∧ e.endedAt = Sample.second 100 ∧
      ((Store.empty.run Sample.settings (Sample.steps.take 5)).eligibility true "ann" e).1 = true ∧
      e.distribution = .manual :=
    ⟨_, rfl, rfl, rfl, rfl, by decide +kernel, rfl⟩
  rcases hevent with ⟨e, hfound, hactive, hstart, hend, hverdict, hmanual⟩
  have hunclaimed : ¬(Store.empty.run Sample.settings (Sample.steps.take 5)).Claimed "ann" "e1" := by
    rintro ⟨r, hr, _⟩
    cases hr
  have houtcome := request_outcome true (Sample.second 30) (fun _ => "r1") "ann" "e1"
    (Store.empty.run Sample.settings (Sample.steps.take 5))
  have hrunning : e.startedAt ≤ Sample.second 30 ∧ Sample.second 30 ≤ e.endedAt := by
    rw [hstart, hend]
    decide
  rcases houtcome.1.2 ⟨e, hfound, hactive, hrunning.1, hrunning.2, hunclaimed⟩ with ⟨r, left, hmade⟩
  rcases houtcome.2.2 r left hmade rfl with ⟨hgains, _, _, _, e', hfound', hfits⟩
  have hsame : e' = e := Option.some.inj (hfound'.symm.trans hfound)
  rw [hsame] at hfits
  exact ⟨r, left, hmade, hgains, hfits.pending.2 ⟨hverdict, hmanual⟩⟩

end EventRewards
