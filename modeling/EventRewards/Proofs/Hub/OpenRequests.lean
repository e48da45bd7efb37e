import EventRewards.Proofs.Hub.RequestLife

/-!
# Open requests

A pending or approved request is open.  No user ever holds two open requests for one event: a request
is refused while one is open, a decision opens nothing that was not open before, and an approved
request stays as it is.  So over a whole run no user is approved twice for one event.
-/

namespace EventRewards

variable {settings : HubSettings} {step : Step} {s : Store}

namespace Store

/-- The open requests of a user for an event. -/
def openRequests (s : Store) (userId eventId : String) : List RewardRequest :=
  s.requests.filter fun r => r.eventId == eventId && r.userId == userId && r.status.isOpen

theorem mem_openRequests {userId eventId : String} {r : RewardRequest} :
    r ∈ s.openRequests userId eventId ↔
      r ∈ s.requests ∧ r.eventId = eventId ∧ r.userId = userId ∧ r.status.isOpen = true := by
  simp [openRequests, List.mem_filter, and_assoc]

theorem openRequests_eq_nil {userId eventId : String} :
    s.openRequests userId eventId = [] ↔ s.hasOpenRequest userId eventId = false := by
  rw [openRequests, List.filter_eq_nil_iff, hasOpenRequest, List.any_eq_false]

/-- A decision on a pending request adds no open request. -/
theorem openRequests_replaceRequest {r decided : RewardRequest}
    (distinct : (s.requests.map (·.id)).Nodup) (found : s.request? r.id = some r)
    (pending : r.status = .pending) (claim : r.SameClaim decided) (userId eventId : String) :
    ((s.replaceRequest decided).openRequests userId eventId).length ≤
      (s.openRequests userId eventId).length := by
  rw [openRequests, openRequests, ← List.countP_eq_length_filter, ← List.countP_eq_length_filter,
    replaceRequest, List.countP_map]
  refine List.countP_mono_left ?_
  intro q hq hopen
  by_cases h : q.id = decided.id
  · -- only the pending request itself is replaced, and that one is open already
    have hqr : q = r :=
      List.inj_on_of_nodup_map distinct hq (of_request? found).1 (h.trans claim.id)
    subst hqr
    simp only [Function.comp, if_pos h, Bool.and_eq_true, claim.eventId, claim.userId] at hopen
    simp only [Bool.and_eq_true]
    exact ⟨hopen.1, by rw [pending]; rfl⟩
  · simpa only [Function.comp, if_neg h] using hopen

/-- A step keeps it that a user holds at most one open request for an event. -/
theorem openRequests_after (distinct : (s.requests.map (·.id)).Nodup) {userId eventId : String}
    (one : (s.openRequests userId eventId).length ≤ 1) :
    ((step.after settings s).openRequests userId eventId).length ≤ 1 := by
  refine Step.after_induction (P := fun left => (left.openRequests userId eventId).length ≤ 1) one ?_
  intro op answer left _ _ heffect
  cases heffect with
  | @request user _ e _ _ _ _ alone =>
    rw [openRequests, List.filter_append, List.length_append, ← openRequests]
    by_cases h : e.id = eventId ∧ user = userId
    · -- the new request may be open: then it is the first
      rcases h with ⟨rfl, rfl⟩
      rw [openRequests_eq_nil.2 alone]
      exact (Nat.zero_add _).trans_le (List.length_filter_le _ _)
    · have hother : ¬((s.newRequest settings.boundLogs step.now step.fresh user e).eventId =
          eventId ∧
          (s.newRequest settings.boundLogs step.now step.fresh user e).userId = userId) := h
      rw [List.filter_eq_nil_iff.2]
      · simpa using one
      · intro r hr hopen
        rw [List.mem_singleton] at hr
        subst hr
        simp only [Bool.and_eq_true, beq_iff_eq] at hopen
        exact hother hopen.1
  | approve found pending _ =>
    have hid := (of_request? found).2
    subst hid
    refine (openRequests_replaceRequest distinct found pending ?_ _ _).trans one
    exact RewardRequest.decidedRequest_sameClaim
  | reject found pending =>
    have hid := (of_request? found).2
    subst hid
    refine (openRequests_replaceRequest distinct found pending ?_ _ _).trans one
    exact RewardRequest.decidedRequest_sameClaim
  | _ => exact one

end Store

section Run

variable {steps before rest : List Step} {userId eventId : String}

theorem DistinctDraws.openRequests_length (distinct : DistinctDraws settings steps)
    (userId eventId : String) :
    ((Store.empty.run settings steps).openRequests userId eventId).length ≤ 1 := by
  refine distinct.induction
    (P := fun _ s => (s.openRequests userId eventId).length ≤ 1) (Nat.zero_le 1) ?_
  intro before step hbefore _ ih
  exact Store.openRequests_after hbefore.requests_distinct ih

/-- Two open requests of a user for an event are one. -/
theorem DistinctDraws.openRequests_unique (distinct : DistinctDraws settings steps)
    {r r' : RewardRequest}
    (hr : r ∈ (Store.empty.run settings steps).openRequests userId eventId)
    (hr' : r' ∈ (Store.empty.run settings steps).openRequests userId eventId) : r = r' := by
  have hone := distinct.openRequests_length userId eventId
  generalize (Store.empty.run settings steps).openRequests userId eventId = found at hr hr' hone
  cases found with
  | nil => cases hr
  | cons q others =>
    have hnil : others = [] := List.length_eq_zero_iff.1 (by simpa using hone)
    rw [hnil, List.mem_singleton] at hr hr'
    rw [hr, hr']

/-- An approved request is open from then on, as it was approved. -/
theorem DistinctDraws.approved_stays (distinct : DistinctDraws settings (before ++ rest))
    {r : RewardRequest} (hr : r ∈ (Store.empty.run settings before).openRequests userId eventId)
    (approved : r.status = .approved) :
    r ∈ (Store.empty.run settings (before ++ rest)).openRequests userId eventId := by
  have hstored := Store.mem_openRequests.1 hr
  rcases distinct.exists_later hstored.1 with ⟨r', hr', hlater⟩
  -- approved requests are settled
  have heq : r' = r := hlater.settled (by simp [approved])
  subst heq
  exact Store.mem_openRequests.2 ⟨hr', hstored.2⟩

/-- In every state of a run a user holds at most one open request for an event; and among all the
states of the run there is at most one approved request of a user for an event. -/
theorem one_open_request (distinct : DistinctDraws settings steps) (userId eventId : String) :
    (∀ before, before <+: steps →
      ((Store.empty.run settings before).openRequests userId eventId).length ≤ 1) ∧
    ∀ before before', before <+: steps → before' <+: steps →
      ∀ r ∈ (Store.empty.run settings before).openRequests userId eventId,
        ∀ r' ∈ (Store.empty.run settings before').openRequests userId eventId,
          r.status = .approved → r'.status = .approved → r = r' := by
  constructor
  · rintro before ⟨rest, rfl⟩
    exact distinct.of_append.openRequests_length userId eventId
  · rintro before before' ⟨rest, rfl⟩ ⟨rest', hrest'⟩ r hr r' hr' happroved happroved'
    -- both are open at the end of the run
    have hlast := distinct.approved_stays hr happroved
    rw [← hrest'] at distinct hlast
    exact distinct.openRequests_unique hlast (distinct.approved_stays hr' happroved')

/-- Of the two requests that Ann makes in the small run one is stored, and open to its end. -/
theorem one_open_request_of_ann :
    DistinctDraws Sample.settings Sample.steps ∧
      ((Store.empty.run Sample.settings Sample.steps).openRequests "ann" "e1").length = 1 ∧
      ∀ before, before <+: Sample.steps →
        ((Store.empty.run Sample.settings before).openRequests "ann" "e1").length ≤ 1 := by
  have hone := one_open_request Sample.steps_distinct "ann" "e1"
  refine ⟨Sample.steps_distinct, ?_, hone.1⟩
  decide +kernel

end Run
end EventRewards
